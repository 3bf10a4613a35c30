import SampleProfile.Dwarf.AddressMap
import SampleProfile.Frame

/-!
# Inline stacks of addresses

The inline stack of an address lists the function that it belongs to and the inlined calls around
it.  Each frame has the line reached in it: the source line of the address in the innermost frame,
and the line of the call inside in all others.
-/

namespace SampleProfile.Dwarf

/-- Debugging information that answers inline stacks. -/
structure StackSource where
  sections : Sections
  declarations : DeclarationLines
  map : AddressMap

/-- Why there are no inline stacks. -/
inductive StackFault where
  /-- Units cannot be told apart. -/
  | units (fault : Fault)
  /-- The addresses of units are not known. -/
  | addresses (fault : Fault)
deriving DecidableEq, Repr

/-- The reasons behind a fault, from the outermost to the innermost. -/
def StackFault.reasons : StackFault → List String
  | units fault => ["Failed to index subprograms", fault.message]
  | addresses fault => ["Failed to load DWARF debug information", fault.message]

namespace StackSource

/-- Prepares debugging information. -/
def ofSections (sections : Sections) : Except StackFault StackSource := do
  let headers ← sections.unitHeaders.mapError StackFault.units
  let map ← (AddressMap.ofSections sections headers).mapError StackFault.addresses
  return { sections, declarations := sections.declarationLines headers, map }

/-- A name, if there is one, and a line. -/
abbrev NamedLine := Option (List UInt8) × UInt32

/-- The frames of inlined calls, given outermost first, in a function: each has the line of the call
inside it, and the innermost has the given line. -/
def namedLines (name : Option (List UInt8)) (line : UInt32) : List InlinedCall → List NamedLine
  | [] => [(name, line)]
  | call :: inner => namedLines call.name line inner ++ [(name, call.line)]

/-- The frames of an address in a unit, innermost first; nothing if the unit does not know the
address. -/
def framesIn (source : StackSource) (mapped : MappedUnit) (address : UInt64) :
    Except Fault (Option (List NamedLine)) := do
  let functions ← mapped.functions.get
  let detail ← (functions.entryAt? address).mapM fun entry => do
    return (← readFunction source.map.units source.sections mapped.unit entry).1
  let line := (← mapped.lines.get).bind fun table => table.lineAt? address
  match detail, line with
  | none, none => return none
  | none, some line => return some [(none, line)]
  | some detail, line => return some (namedLines detail.name (line.getD 0) (detail.callsAt address))

/-- The frames of an address in the first unit that knows it. -/
def firstFrames (source : StackSource) (address : UInt64) :
    List MappedUnit → Except Fault (List NamedLine)
  | [] => return []
  | unit :: rest => do
      match ← source.framesIn unit address with
      | some frames => return frames
      | none => source.firstFrames address rest

/-- A frame with the line at which its function is declared. -/
def frame? (source : StackSource) (named : NamedLine) : Option Frame :=
  named.1.map fun bytes =>
    let name := Text.lossy bytes
    ⟨name, source.declarations.getD name 0, named.2, 0⟩

/-- The inline stack of an address, which is empty unless all its frames are known. -/
def stackAt (source : StackSource) (address : UInt64) : Stack :=
  match source.firstFrames address (source.map.unitsAt address) with
  | .error _ => []
  | .ok frames => (frames.mapM source.frame?).getD []

end StackSource

end SampleProfile.Dwarf
