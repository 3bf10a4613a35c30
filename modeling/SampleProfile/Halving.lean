/-!
# Search by halving

Entries of a row that stand before what is sought, are it, or stand behind it, are told apart by an
ordering.  Halving the row again and again leads to the last entry that does not stand behind what
is sought, if the row is in order.
-/

namespace SampleProfile

/-- The place at which halving a stretch of a row ends. -/
def halve {Entry : Type} (position : Entry → Ordering) (entries : Array Entry)
    (start length : Nat) : Nat :=
  if _longer : 1 < length then
    let middle := start + length / 2
    match entries[middle]? with
    | none => start
    | some entry =>
        if position entry = .gt then
          halve position entries start (length - length / 2)
        else
          halve position entries middle (length - length / 2)
  else
    start
termination_by length
decreasing_by all_goals omega

/-- The last entry that does not stand behind what is sought. -/
def lastUpTo? {Entry : Type} (position : Entry → Ordering) (entries : Array Entry) :
    Option (Nat × Entry) :=
  let place := halve position entries 0 entries.size
  match entries[place]? with
  | none => none
  | some entry => if position entry = .gt then none else some (place, entry)

/-- An entry that is what is sought, with its place. -/
def sought? {Entry : Type} (position : Entry → Ordering) (entries : Array Entry) :
    Option (Nat × Entry) :=
  (lastUpTo? position entries).filter fun found => position found.2 = .eq

end SampleProfile
