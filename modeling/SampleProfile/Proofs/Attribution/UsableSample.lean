import Mathlib.Data.List.Basic
import SampleProfile.Proofs.Attribution.Fate

/-!
# Usable samples

An attribution can use the samples of an address if a function encloses the address and its inline
stack has a frame.  Here a usable sample and the place it belongs to are told from the symbol and
the frames alone, so that what an attribution leaves can be said without the way it looks a stack up
(`elided_usable`).
-/

namespace SampleProfile.Attribution

/-- The samples of an address that lies in a function and has an inline stack. -/
structure UsableSample where
  address : UInt64
  /-- The function around the address. -/
  symbol : Symbol
  innermost : Frame
  /-- The frames around the innermost one, outwards. -/
  outer : Stack
  samples : UInt64
deriving DecidableEq

namespace UsableSample

variable (sample : UsableSample)

/-- The calls that lead to the innermost frame, outermost first: the position of the call in each
caller, and the function that is called there. -/
def path : Path :=
  (List.zipWith (fun callee caller => ⟨caller.offset, callee.function⟩)
    (sample.innermost :: sample.outer) sample.outer).reverse

/-- The position in the innermost frame, behind the calls that lead there. -/
def place : Place where
  path := sample.path
  offset := sample.innermost.offset

/-- What the samples count for: the function without its variant ending, the place, and the entries
of the function if the address is the start of a function whose name has no variant ending. -/
def visit (markers : List String) : Landing × UInt64 :=
  ({ function := Suffix.elide markers sample.symbol.name
     place := sample.place
     atEntry := sample.symbol.start = sample.address ∧
       Suffix.elide markers sample.symbol.name = sample.symbol.name },
    sample.samples)

end UsableSample

section Usable

variable (table : FunctionTable) (resolve : UInt64 → Stack) (samples : Samples)

/-- The usable sample of an address, if there is one. -/
def usableSample? (address count : UInt64) : Option UsableSample :=
  match table.enclosing? address, resolve address with
  | some symbol, innermost :: outer =>
      some { address, symbol, innermost, outer, samples := count }
  | _, _ => none

/-- All usable samples, by address. -/
def usableSamples : List UsableSample :=
  samples.addresses.toList.filterMap fun entry => usableSample? table resolve entry.1 entry.2

variable {table resolve samples}

theorem usableSample?_eq_some_iff {address count : UInt64} {sample : UsableSample} :
    usableSample? table resolve address count = some sample ↔
      sample.address = address ∧ sample.samples = count ∧
        table.enclosing? address = some sample.symbol ∧
        resolve address = sample.innermost :: sample.outer := by
  rw [usableSample?]
  cases table.enclosing? address with
  | none => simp
  | some symbol =>
      cases resolve address with
      | nil => simp
      | cons innermost outer =>
          simp only [Option.some_inj, List.cons.injEq]
          constructor
          · rintro rfl
            exact ⟨rfl, rfl, rfl, rfl, rfl⟩
          · rintro ⟨rfl, rfl, rfl, rfl, rfl⟩
            rfl

/-- A sample is usable when its address was sampled, lies in a function and has a stack of at least
one frame. -/
theorem mem_usableSamples {sample : UsableSample} :
    sample ∈ usableSamples table resolve samples ↔
      samples.addresses[sample.address]? = some sample.samples ∧
        table.enclosing? sample.address = some sample.symbol ∧
        resolve sample.address = sample.innermost :: sample.outer := by
  simp only [usableSamples, List.mem_filterMap, usableSample?_eq_some_iff, Prod.exists,
    Std.ExtTreeMap.mem_toList_iff_getElem?_eq_some]
  constructor
  · rintro ⟨_, _, sampled, rfl, rfl, enclosed, opened⟩
    exact ⟨sampled, enclosed, opened⟩
  · rintro ⟨sampled, enclosed, opened⟩
    exact ⟨_, _, sampled, rfl, rfl, enclosed, opened⟩

end Usable

/-! ## Fates of usable samples -/

variable (map : ProfileMap) (resolve : UInt64 → Stack) (samples : Samples)

theorem landing?_ofAddress (address count : UInt64) :
    ((Fate.ofAddress map resolve address).landing?.map fun landing =>
        (landing.elide map.markers, count)) =
      (usableSample? map.functions resolve address count).map fun sample =>
        sample.visit map.markers := by
  rw [Fate.ofAddress, usableSample?]
  cases map.functions.enclosing? address with
  | none => rfl
  | some symbol =>
      cases resolve address with
      | nil => rfl
      | cons innermost outer =>
          rw [Stack.place?_cons]
          rfl

/-- The visits of an attribution are what its usable samples count for. -/
theorem elided_usable :
    elided map.markers (usable (fates map resolve samples)) =
      (usableSamples map.functions resolve samples).map fun sample =>
        sample.visit map.markers := by
  rw [elided, usable, fates, usableSamples, List.filterMap_map, List.map_filterMap, List.map_filterMap]
  refine List.filterMap_congr fun entry _ => ?_
  rw [← landing?_ofAddress]
  simp [Option.map_map, Function.comp_def]

theorem countP_fates (fate : Fate) :
    ((fates map resolve samples).countP fun settled => settled.1 = fate) =
      samples.addresses.keys.countP fun address => Fate.ofAddress map resolve address = fate := by
  rw [fates, List.countP_map, ← Std.ExtTreeMap.map_fst_toList_eq_keys, List.countP_map]
  rfl

theorem ofAddress_eq_unknownSymbol_iff (address : UInt64) :
    Fate.ofAddress map resolve address = .unknownSymbol ↔
      map.functions.enclosing? address = none := by
  rw [Fate.ofAddress]
  cases map.functions.enclosing? address with
  | none => simp
  | some symbol => cases (resolve address).place? <;> simp

theorem ofAddress_eq_emptyStack_iff (address : UInt64) :
    Fate.ofAddress map resolve address = .emptyStack ↔
      map.functions.enclosing? address ≠ none ∧ resolve address = [] := by
  rw [Fate.ofAddress]
  cases map.functions.enclosing? address with
  | none => simp
  | some symbol => cases resolve address <;> simp [Stack.place?]

end SampleProfile.Attribution
