import SampleProfile.Zlib.Huffman

/-!
# Compressed data

Data compressed in the zlib format consists of blocks.  A block holds bytes as they are, or a
sequence of symbols: single bytes, and references to bytes that came shortly before.  A checksum
follows the blocks.
-/

namespace SampleProfile.Zlib

/-- How far decompression has come. -/
inductive Progress where
  /-- The output so far, and the bits that are left. -/
  | more (output : ByteArray) (bits : Bits)
  /-- The output has reached its limit, and there would be more. -/
  | full (output : ByteArray)

/-! ## Symbols -/

/-- How often a length or distance symbol doubles what it stands for. -/
structure Scale where
  base : Nat
  extraBits : Nat
deriving DecidableEq, Repr

/-- The lengths that the symbols from 257 on stand for. -/
def lengthScales : List Scale :=
  [⟨3, 0⟩, ⟨4, 0⟩, ⟨5, 0⟩, ⟨6, 0⟩, ⟨7, 0⟩, ⟨8, 0⟩, ⟨9, 0⟩, ⟨10, 0⟩,
    ⟨11, 1⟩, ⟨13, 1⟩, ⟨15, 1⟩, ⟨17, 1⟩, ⟨19, 2⟩, ⟨23, 2⟩, ⟨27, 2⟩, ⟨31, 2⟩,
    ⟨35, 3⟩, ⟨43, 3⟩, ⟨51, 3⟩, ⟨59, 3⟩, ⟨67, 4⟩, ⟨83, 4⟩, ⟨99, 4⟩, ⟨115, 4⟩,
    ⟨131, 5⟩, ⟨163, 5⟩, ⟨195, 5⟩, ⟨227, 5⟩, ⟨258, 0⟩]

/-- The distances that symbols stand for. -/
def distanceScales : List Scale :=
  [⟨1, 0⟩, ⟨2, 0⟩, ⟨3, 0⟩, ⟨4, 0⟩, ⟨5, 1⟩, ⟨7, 1⟩, ⟨9, 2⟩, ⟨13, 2⟩,
    ⟨17, 3⟩, ⟨25, 3⟩, ⟨33, 4⟩, ⟨49, 4⟩, ⟨65, 5⟩, ⟨97, 5⟩, ⟨129, 6⟩, ⟨193, 6⟩,
    ⟨257, 7⟩, ⟨385, 7⟩, ⟨513, 8⟩, ⟨769, 8⟩, ⟨1025, 9⟩, ⟨1537, 9⟩, ⟨2049, 10⟩, ⟨3073, 10⟩,
    ⟨4097, 11⟩, ⟨6145, 11⟩, ⟨8193, 12⟩, ⟨12289, 12⟩, ⟨16385, 13⟩, ⟨24577, 13⟩]

/-- Reads what a symbol leaves open of a length or distance. -/
def readScaled (scales : List Scale) (symbol : Nat) : BitReading Nat := do
  let scale ← (scales[symbol]? : Option Scale)
  let extra ← readBits scale.extraBits
  return scale.base + extra

/-- A symbol of a block. -/
inductive Token where
  | literal (byte : UInt8)
  | reference (length distance : Nat)
  | endOfBlock
deriving DecidableEq, Repr

/-- The codes of a block. -/
structure Codes where
  literals : CodeTree
  distances : CodeTree

/-- Reads a symbol with what belongs to it. -/
def Codes.readToken (codes : Codes) : BitReading Token := do
  let symbol ← codes.literals.read
  if symbol < 256 then
    return .literal (UInt8.ofNat symbol)
  else if symbol = 256 then
    return .endOfBlock
  else
    let length ← readScaled lengthScales (symbol - 257)
    let distance ← codes.distances.read
    return .reference length (← readScaled distanceScales distance)

/-- Appends so many bytes, each as far back as a distance says. -/
def copyBack (distance : Nat) : Nat → ByteArray → ByteArray
  | 0, output => output
  | length + 1, output =>
      copyBack distance length (output.push (output[output.size - distance]?.getD 0))

/-- Follows symbols up to the end of a block or to the limit of the output.  Each takes at least a
bit. -/
def inflateTokens (codes : Codes) (limit : Nat) : Nat → ByteArray → Bits → Option Progress
  | 0, _, _ => none
  | bound + 1, output, bits =>
      match codes.readToken bits with
      | none => none
      | some (.endOfBlock, later) => some (.more output later)
      | some (.literal byte, later) =>
          if limit ≤ output.size then some (.full output)
          else inflateTokens codes limit bound (output.push byte) later
      | some (.reference length distance, later) =>
          if output.size < distance then
            none
          else if limit - output.size < length then
            some (.full (copyBack distance (limit - output.size) output))
          else
            inflateTokens codes limit bound (copyBack distance length output) later

/-! ## Blocks -/

/-- The codes of blocks that bring none. -/
def fixedCodes? : Option Codes := do
  let literals ← CodeTree.ofLengths? true <|
    List.replicate 144 8 ++ List.replicate 112 9 ++ List.replicate 24 7 ++ List.replicate 8 8
  let distances ← CodeTree.ofLengths? true (List.replicate 32 5)
  return { literals, distances }

/-- In which order the lengths of the code for lengths are stored. -/
def lengthOrder : List Nat :=
  [16, 17, 18, 0, 8, 7, 9, 6, 10, 5, 11, 4, 12, 3, 13, 2, 14, 1, 15]

/-- Reads so many lengths by a code, in which some symbols repeat a length; those read so far are
given latest first.
-/
def readLengths (code : CodeTree) (count : Nat) : Nat → List Nat → BitReading (List Nat)
  | 0, lengths => if lengths.length = count then pure lengths.reverse else fun _ => none
  | bound + 1, lengths => do
      if count ≤ lengths.length then
        if lengths.length = count then return lengths.reverse else failure
      match ← code.read with
      | 16 =>
          match lengths with
          | [] => failure
          | last :: _ =>
              let extra ← readBits 2
              readLengths code count bound (List.replicate (3 + extra) last ++ lengths)
      | 17 =>
          let extra ← readBits 3
          readLengths code count bound (List.replicate (3 + extra) 0 ++ lengths)
      | 18 =>
          let extra ← readBits 7
          readLengths code count bound (List.replicate (11 + extra) 0 ++ lengths)
      | length => readLengths code count bound (length :: lengths)

/-- Reads the codes of a block that brings its own. -/
def readCodes : BitReading Codes := do
  let literalCount := 257 + (← readBits 5)
  let distanceCount := 1 + (← readBits 5)
  let lengthCount := 4 + (← readBits 4)
  if 286 < literalCount || 30 < distanceCount then
    failure
  let stored ← (List.replicate lengthCount ()).mapM fun _ => readBits 3
  let lengths := (List.range 19).map fun symbol =>
    ((lengthOrder.zip stored).lookup symbol).getD 0
  let code ← (CodeTree.ofLengths? false lengths : Option CodeTree)
  let all ← readLengths code (literalCount + distanceCount) (literalCount + distanceCount) []
  let literals ← (CodeTree.ofLengths? true (all.take literalCount) : Option CodeTree)
  let distances ← (CodeTree.ofLengths? true (all.drop literalCount) : Option CodeTree)
  return { literals, distances }

/-- Follows a block of bytes that stand as they are. -/
def inflateStored (limit : Nat) (output : ByteArray) : BitReading Progress := do
  skipToByte
  let length ← readBits 16
  let complement ← readBits 16
  if length + complement ≠ 0xFFFF then
    failure
  let bits ← get
  let start := bits.position / 8
  let room := min length (limit - output.size)
  if bits.bytes.size < start + room then
    failure
  let copied := output ++ bits.bytes.extract start (start + room)
  if room < length then
    return .full copied
  else
    return .more copied { bits with position := 8 * (start + length) }

/-- Follows a block; answers with it whether it is the last. -/
def inflateBlock (limit : Nat) (output : ByteArray) : BitReading (Progress × Bool) := do
  let last ← readBit
  let kind ← readBits 2
  let progress ←
    match kind with
    | 0 => inflateStored limit output
    | 1 => do
        let codes ← (fixedCodes? : Option Codes)
        let bits ← get
        (inflateTokens codes limit (bits.remaining + 1) output bits : Option Progress)
    | 2 => do
        let codes ← readCodes
        let bits ← get
        (inflateTokens codes limit (bits.remaining + 1) output bits : Option Progress)
    | _ => failure
  return (progress, last)

/-- Follows blocks up to the last one or to the limit of the output. -/
def inflateBlocks (limit : Nat) : Nat → ByteArray → Bits → Option Progress
  | 0, _, _ => none
  | bound + 1, output, bits =>
      match inflateBlock limit output bits with
      | none => none
      | some ((.full output, _), _) => some (.full output)
      | some ((.more output later, last), _) =>
          if last then some (.more output later) else inflateBlocks limit bound output later

/-! ## The format -/

/-- The checksum of bytes: their sum, and the sum of all sums on the way. -/
def checksum (bytes : ByteArray) : Nat :=
  let (low, high) := bytes.data.foldl
    (fun (sums : Nat × Nat) byte =>
      let low := (sums.1 + byte.toNat) % 65521
      (low, (sums.2 + low) % 65521)) (1, 0)
  high * 65536 + low

/-- Whether the two bytes at the start announce data that can be read. -/
def isHeader (method flags : Nat) : Bool :=
  (method * 256 + flags) % 31 = 0 && flags / 32 % 2 = 0 && method % 16 = 8 && method / 16 ≤ 7

/-- Decompresses data up to a limit of the output; none if the data is damaged or incomplete. -/
def decompress (bytes : ByteArray) (limit : Nat) : Option ByteArray := do
  let method ← bytes[0]?
  let flags ← bytes[1]?
  if !isHeader method.toNat flags.toNat then
    failure
  match ← inflateBlocks limit (8 * bytes.size) .empty { bytes, position := 16 } with
  | .full output => return output
  | .more output bits =>
      let stored := bytes.extract ((bits.position + 7) / 8) ((bits.position + 7) / 8 + 4)
      let sum := stored.data.foldl (fun sum byte => 256 * sum + byte.toNat) 0
      if stored.size = 4 && sum = checksum output then
        return output
      else
        none

end SampleProfile.Zlib
