import SampleProfile.FunctionProfile
import SampleProfile.FunctionTable
import SampleProfile.Suffix

/-!
# The profile of a binary

A `ProfileMap` is what attribution fills and reports read: the function table of a binary, a profile
per function name, and the rules by which variants are folded together and cold functions left out.
-/

namespace SampleProfile

/-- The least total count of a function that is reported, unless another is given. -/
def standardThreshold : UInt64 := 1

/-- The function table of a binary and the profile being built over it. -/
structure ProfileMap where
  functions : FunctionTable
  profiles : OrderedMap String FunctionProfile := ∅
  /-- Report every function, however small its total count. -/
  ignoreThreshold : Bool := false
  /-- The least total count of a function that is reported. -/
  threshold : UInt64 := standardThreshold
  /-- The markers at which names of variants are cut. -/
  markers : List String := Suffix.standardMarkers

namespace ProfileMap

/-- An empty profile over a list of function symbols in any order. -/
def ofSymbols (symbols : List Symbol) : ProfileMap where
  functions := FunctionTable.ofList symbols

/-- The profile recorded for a name. -/
def profile? (map : ProfileMap) (name : String) : Option FunctionProfile :=
  map.profiles[name]?

/-- Adds samples at the place of a stack to the profile of a name, creating the profile if
necessary; samples at the function's entry also count there.  Nothing can be done for an empty
stack, which answers `none`. -/
def record? (map : ProfileMap) (name : String) (stack : Stack) (samples : UInt64)
    (atEntry : Bool) : Option ProfileMap :=
  stack.place?.map fun place =>
    { map with
      profiles := OrderedMap.update map.profiles name fun profile =>
        (if atEntry then profile.recordEntry samples else profile).record place samples }

/-- Makes sure that a name has a profile, if it has one already or names a function at whose start
the function around the address starts; else answers `none`. -/
def ensure? (map : ProfileMap) (name : String) (address : UInt64) : Option ProfileMap :=
  if name ∈ map.profiles then
    some map
  else
    match map.functions.enclosing? address with
    | none => none
    | some symbol =>
        if map.functions.startOf? name = some symbol.start then
          some { map with profiles := map.profiles.insert name .empty }
        else
          none

/-- Stores the count of a call target at the place of a stack.  Answers `none` if the name has no
profile or the stack is empty. -/
def setTarget? (map : ProfileMap) (name : String) (stack : Stack) (target : String)
    (count : Count) : Option ProfileMap :=
  match map.profile? name, stack.place? with
  | some profile, some place =>
      some { map with profiles := map.profiles.insert name (profile.setTarget place target count) }
  | _, _ => none

/-- Folds the profiles of variants into the profile of the name they are cut to, in order of their
names. -/
def foldVariants (map : ProfileMap) : ProfileMap :=
  { map with
    profiles := map.profiles.toList.foldl
      (fun profiles entry =>
        OrderedMap.combine FunctionProfile.merge profiles
          (Suffix.elide map.markers entry.1) entry.2)
      ∅ }

/-- The profiles that reach the threshold, by name. -/
def emitted (map : ProfileMap) : List (String × FunctionProfile) :=
  map.profiles.toList.filter fun entry =>
    map.ignoreThreshold || map.threshold ≤ entry.2.root.total

/-- Name and size of every function symbol without a profile, by address. -/
def unprofiled (map : ProfileMap) : List (String × UInt64) :=
  (map.functions.symbols.filter fun symbol =>
      !map.profiles.contains (Suffix.elide map.markers symbol.name)).map
    fun symbol => (symbol.name, symbol.size)

end ProfileMap

end SampleProfile
