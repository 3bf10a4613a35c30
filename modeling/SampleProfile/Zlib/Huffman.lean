/-!
# Prefix codes

Compressed data is a sequence of bits in which frequent symbols have short codes.  A code is stored
as the lengths of its words alone: among words of one length and between lengths, words follow each
other in numerical order, so that the lengths determine the tree by which words are read.
-/

namespace SampleProfile.Zlib

/-- Bits of bytes, least significant first, and how many of them have been taken. -/
structure Bits where
  bytes : ByteArray
  position : Nat := 0

/-- Takes values from bits. -/
abbrev BitReading := StateT Bits Option

/-- How many bits are left. -/
def Bits.remaining (bits : Bits) : Nat :=
  8 * bits.bytes.size - bits.position

/-- The next bit. -/
def readBit : BitReading Bool := fun bits =>
  bits.bytes[bits.position / 8]?.map fun byte =>
    (byte.toNat.testBit (bits.position % 8), { bits with position := bits.position + 1 })

/-- A number of so many bits, least significant first. -/
def readBits : Nat → BitReading Nat
  | 0 => pure 0
  | count + 1 => do
      let first ← readBit
      let rest ← readBits count
      return first.toNat + 2 * rest

/-- Leaves out bits up to the end of a byte. -/
def skipToByte : BitReading Unit := fun bits =>
  some ((), { bits with position := (bits.position + 7) / 8 * 8 })

/-- A tree of code words; a way that ends nowhere is no word. -/
inductive CodeTree where
  | word (symbol : Nat)
  | branch (zero one : CodeTree)
  | nothing
deriving Repr

namespace CodeTree

/-- Reads a word, bit by bit. -/
def read : CodeTree → BitReading Nat
  | word symbol => pure symbol
  | nothing => fun _ => none
  | branch zero one => do
      if ← readBit then one.read else zero.read

/-- Places words, given with their lengths from short to long, below a node at a depth; answers the
tree and the words left over.  No word is longer than the depth and the levels left. -/
def place (depth : Nat) : Nat → List (Nat × Nat) → CodeTree × List (Nat × Nat)
  | _, [] => (nothing, [])
  | 0, (length, symbol) :: rest =>
      if length = depth then (word symbol, rest) else (nothing, (length, symbol) :: rest)
  | levels + 1, (length, symbol) :: rest =>
      if length = depth then
        (word symbol, rest)
      else
        let (zero, others) := place (depth + 1) levels ((length, symbol) :: rest)
        let (one, others) := place (depth + 1) levels others
        (branch zero one, others)

/-- The words of nonzero length, with their lengths, from short to long and then by symbol. -/
def wordsOf (lengths : List Nat) : List (Nat × Nat) :=
  let words := (lengths.zipIdx).filter fun entry => entry.1 ≠ 0
  words.mergeSort fun left right => left.1 < right.1 || (left.1 = right.1 && left.2 ≤ right.2)

/-- The length of the longest word. -/
def longest : Nat := 15

/-- Whether words use up all ways through the tree and no more. -/
def isComplete (words : List (Nat × Nat)) : Bool :=
  (words.foldl (fun total entry => total + Nat.pow 2 (longest - entry.1)) 0) = Nat.pow 2 longest

/-- The code of given lengths.  It must be complete, except that a single word may do. -/
def ofLengths? (singleWord : Bool) (lengths : List Nat) : Option CodeTree :=
  let words := wordsOf lengths
  if isComplete words || (singleWord && words.length ≤ 1) then
    some (place 0 longest words).1
  else
    none

end CodeTree

end SampleProfile.Zlib
