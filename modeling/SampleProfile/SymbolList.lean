import SampleProfile.Binary64
import SampleProfile.Overflow

/-!
# The list of unprofiled symbols

Shipped with a profile, the list tells functions that were cold from functions that did not exist
yet.  It names the largest unprofiled functions that together reach a given share of the unprofiled
size.

`ofEntries` adds sizes modulo `2 ^ 64`, as a program does that leaves overflows unnoticed.  A
program that notices them stops, which is what `exactEntries` adds.
-/

namespace SampleProfile.SymbolList

/-- A function and its size. -/
abbrev Entry := String × UInt64

/-- Larger functions first, and by name within one size. -/
def precedes (left right : Entry) : Bool :=
  right.2 < left.2 || (left.2 = right.2 && compare left.1 right.1 != .gt)

/-- Keeps the first of adjacent entries with the same name. -/
def collapse : List Entry → List Entry
  | [] => []
  | entry :: rest =>
      match collapse rest with
      | [] => [entry]
      | next :: others =>
          if next.1 = entry.1 then entry :: others else entry :: next :: others

/-- The entries in order, adjacent repetitions of a name left out. -/
def ranked (entries : List Entry) : List Entry :=
  collapse (entries.mergeSort precedes)

/-- The sizes of all entries together, modulo `2 ^ 64`: this sum wraps around where `exactSize`
stops. -/
def totalSize (entries : List Entry) : UInt64 :=
  entries.foldl (fun sum entry => sum + entry.2) 0

/-- Takes entries as long as the size covered before them is below the target.  The size covered
wraps around, but never within a total that does not. -/
def takeBelow (target : Binary64) (covered : UInt64) : List Entry → List Entry
  | [] => []
  | entry :: rest =>
      if Binary64.le target (Binary64.ofNat covered.toNat) then
        []
      else
        entry :: takeBelow target (covered + entry.2) rest

/-- The largest entries that cover a share of the total size: all for a share of one or more, none
for a share that is zero or negative. -/
def ofEntries (entries : List Entry) (share : Binary64) : List Entry :=
  if Binary64.le share .zero then
    []
  else
    let ranked := ranked entries
    let target := Binary64.mul (Binary64.ofNat (totalSize ranked).toNat)
      (Binary64.min share .one)
    takeBelow target 0 ranked

/-- The sizes of all entries together, if they are a word. -/
def exactSize (entries : List Entry) : Except Overflow UInt64 :=
  entries.foldlM (fun sum entry => exactSum sum entry.2) 0

/-- The list of `ofEntries`, unless the total size overflows where it is needed. -/
def exactEntries (entries : List Entry) (share : Binary64) : Except Overflow (List Entry) := do
  if Binary64.le share .zero then
    return []
  else
    let _ ← exactSize (ranked entries)
    return ofEntries entries share

theorem exactEntries_eq (entries : List Entry) (share : Binary64) :
    exactEntries entries share =
      if Binary64.le share .zero then
        .ok (ofEntries entries share)
      else
        (exactSize (ranked entries)).map fun _ => ofEntries entries share := by
  by_cases nonpositive : Binary64.le share .zero
  · rw [exactEntries, if_pos nonpositive, if_pos nonpositive, ofEntries, if_pos nonpositive]
    rfl
  · rw [exactEntries, if_neg nonpositive, if_neg nonpositive]
    cases exactSize (ranked entries) <;> rfl

end SampleProfile.SymbolList
