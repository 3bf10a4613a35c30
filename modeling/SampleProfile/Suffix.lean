/-!
# Variants of a function

Compilers split and clone functions and name the pieces after the function they come from:
`foo.cold`, `foo.isra.0`, `foo.llvm.1234`.  A profile is looked up by the first name, so a name is
cut at the marker that starts its ending.
-/

namespace SampleProfile.Suffix

/-- The markers that are cut off unless others are given. -/
def standardMarkers : List String :=
  [".cold", ".llvm.", ".isra.", ".part.", ".constprop.", ".lto_priv."]

/-- How many characters stand before the first occurrence of a marker in a text. -/
def firstOccurrence (marker : List Char) : List Char → Option Nat
  | [] => if marker.isEmpty then some 0 else none
  | first :: rest =>
      if marker.isPrefixOf (first :: rest) then
        some 0
      else
        (firstOccurrence marker rest).map (· + 1)

/-- Where a name is cut: the least of the markers' first occurrences, not counting a marker that
starts the name. -/
def cut? (markers : List String) (name : String) : Option Nat :=
  ((markers.filterMap fun marker => firstOccurrence marker.toList name.toList).filter
    (0 < ·)).min?

/-- The name without its variant ending. -/
def elide (markers : List String) (name : String) : String :=
  match cut? markers name with
  | some length => String.ofList (name.toList.take length)
  | none => name

/-- Whether the name belongs to a split or cloned variant of another function. -/
def isVariant (markers : List String) (name : String) : Bool :=
  (cut? markers name).isSome

end SampleProfile.Suffix
