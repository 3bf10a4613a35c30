/-!
# Reading bytes

Binary formats are read through a `Cursor`: a stretch of bytes, the order in which numbers are
stored, and a position in it.  A `Reading` takes a value from the cursor and moves it on; it fails
when the stretch ends too early.
-/

namespace SampleProfile

/-- In which order the bytes of a number stand. -/
inductive ByteOrder where
  /-- The least significant byte first. -/
  | little
  /-- The most significant byte first. -/
  | big
deriving DecidableEq, Repr

/-- The number that bytes stand for. -/
def ByteOrder.number : ByteOrder → List UInt8 → Nat
  | little, bytes => bytes.foldr (fun byte rest => byte.toNat + 256 * rest) 0
  | big, bytes => bytes.foldl (fun front byte => 256 * front + byte.toNat) 0

/-- The bytes of a stretch, in order; the part of the stretch beyond the end has none. -/
def stretch (bytes : ByteArray) (start length : Nat) : List UInt8 :=
  (bytes.extract start (start + length)).data.toList

/-- The bytes of a text. -/
def textBytes (text : String) : List UInt8 :=
  text.toUTF8.data.toList

/-- A place in a stretch of bytes. -/
structure Cursor where
  bytes : ByteArray
  order : ByteOrder
  position : Nat
  /-- The end of the stretch. -/
  stop : Nat
  stop_le : stop ≤ bytes.size

namespace Cursor

/-- The start of a stretch of bytes; the part of the stretch beyond the end of the bytes is cut off.
-/
def between (bytes : ByteArray) (order : ByteOrder) (start stop : Nat) : Cursor where
  bytes := bytes
  order := order
  position := start
  stop := min stop bytes.size
  stop_le := Nat.min_le_right _ _

/-- The start of all bytes. -/
def ofBytes (bytes : ByteArray) (order : ByteOrder) : Cursor :=
  between bytes order 0 bytes.size

/-- How many bytes are left. -/
def remaining (cursor : Cursor) : Nat :=
  cursor.stop - cursor.position

/-- The bytes left. -/
def rest (cursor : Cursor) : List UInt8 :=
  stretch cursor.bytes cursor.position cursor.remaining

/-- The cursor so many bytes further on. -/
def advance (cursor : Cursor) (length : Nat) : Cursor :=
  { cursor with position := cursor.position + length }

/-- How many bytes stand before the next zero, or before the end of the stretch. -/
def zeroDistance (cursor : Cursor) : Nat :=
  if inside : cursor.position < cursor.stop then
    if cursor.bytes.get cursor.position (Nat.lt_of_lt_of_le inside cursor.stop_le) = 0 then
      0
    else
      zeroDistance (cursor.advance 1) + 1
  else
    0
termination_by cursor.stop - cursor.position
decreasing_by
  simp only [advance]
  omega

end Cursor

/-- Takes values from a cursor. -/
abbrev Reading := StateT Cursor Option

namespace Reading

/-- The next bytes. -/
def list (length : Nat) : Reading (List UInt8) := fun cursor =>
  if length ≤ cursor.remaining then
    some (stretch cursor.bytes cursor.position length, cursor.advance length)
  else
    none

/-- A number of so many bytes. -/
def number (width : Nat) : Reading Nat := fun cursor =>
  (list width cursor).map fun taken => (cursor.order.number taken.1, taken.2)

/-- A 64-bit number. -/
def word : Reading UInt64 := fun cursor =>
  (number 8 cursor).map fun taken => (UInt64.ofNat taken.1, taken.2)

/-- Leaves out bytes. -/
def skip (length : Nat) : Reading Unit := fun cursor =>
  if length ≤ cursor.remaining then some ((), cursor.advance length) else none

/-- A cursor over the next bytes alone. -/
def part (length : Nat) : Reading Cursor := fun cursor =>
  if length ≤ cursor.remaining then
    some (.between cursor.bytes cursor.order cursor.position
      (cursor.position + length), cursor.advance length)
  else
    none

/-- The bytes before the next zero, which is left out too. -/
def zeroEnded : Reading (List UInt8) := fun cursor =>
  let length := cursor.zeroDistance
  if length < cursor.remaining then
    some (stretch cursor.bytes cursor.position length, cursor.advance (length + 1))
  else
    none

/-- All bytes that are left. -/
def everything : Reading (List UInt8) := fun cursor =>
  some (cursor.rest, { cursor with position := cursor.stop })

/-- So many values, one after the other. -/
def times {Value : Type} (count : Nat) (value : Reading Value) : Reading (List Value) :=
  (List.replicate count ()).mapM fun _ => value

/-- A value that is there only under a condition. -/
def when {Value : Type} (present : Bool) (value : Reading Value) : Reading (Option Value) :=
  if present then value >>= fun read => pure (some read) else pure none

end Reading

end SampleProfile
