import Mathlib.Logic.Basic
import SampleProfile.Proofs.Attribution.Run

/-!
# Reported and listed functions

A report has the profiles that reach the threshold, and a list of the functions without a profile
goes with it.  No function is in both.  One that has a profile below the threshold is in neither,
whether it received few samples or addresses of it were sampled with counts of zero.
-/

namespace SampleProfile

namespace ProfileMap

/-- A function of a name is reported. -/
def Emits (map : ProfileMap) (name : String) : Prop :=
  ∃ profile, (name, profile) ∈ map.emitted

/-- A function symbol is listed as unprofiled. -/
def Lists (map : ProfileMap) (symbol : Symbol) : Prop :=
  (symbol.name, symbol.size) ∈ map.unprofiled

variable {map : ProfileMap} {symbol : Symbol} {name : String}

theorem mem_emitted {profile : FunctionProfile} :
    (name, profile) ∈ map.emitted ↔ map.profiles[name]? = some profile ∧
      (map.ignoreThreshold ∨ map.threshold ≤ profile.root.total) := by
  simp only [emitted, List.mem_filter, Std.ExtTreeMap.mem_toList_iff_getElem?_eq_some,
    Bool.or_eq_true, decide_eq_true_eq]

theorem emits_iff :
    map.Emits name ↔ ∃ profile, map.profiles[name]? = some profile ∧
      (map.ignoreThreshold ∨ map.threshold ≤ profile.root.total) := by
  simp only [Emits, mem_emitted]

theorem lists_iff (member : symbol ∈ map.functions.symbols) :
    map.Lists symbol ↔ Suffix.elide map.markers symbol.name ∉ map.profiles := by
  have absentIff : ∀ name, (!map.profiles.contains name) = true ↔ name ∉ map.profiles := by
    intro name
    rw [Bool.not_eq_true', ← Bool.not_eq_true, Std.ExtTreeMap.mem_iff_contains]
  simp only [Lists, unprofiled, List.mem_map, List.mem_filter, absentIff, Prod.mk.injEq]
  constructor
  · rintro ⟨other, ⟨_, absent⟩, sameName, _⟩
    exact sameName ▸ absent
  · intro absent
    exact ⟨symbol, ⟨member, absent⟩, rfl, rfl⟩

end ProfileMap

namespace Attribution

/-- The counts of the sampled addresses in functions of a name, variants included, as far as they
have a stack. -/
def received (map : ProfileMap) (resolve : UInt64 → Stack) (samples : Samples) (name : String) :
    List UInt64 :=
  (visitsTo (elided map.markers (usable (fates map resolve samples))) name).map Prod.snd

section Listing

variable {map : ProfileMap} {resolve : UInt64 → Stack} {samples : Samples} {symbol : Symbol}
  {name : String}

theorem received_addSamples (others : Samples) :
    received (addSamples others resolve map).1 resolve samples name =
      received map resolve samples name := by
  rw [fst_addSamples]
  rfl

/-- From a map without profiles, a name gets a profile when it receives something, if only a count
of zero. -/
theorem mem_addSamples (vacant : map.profiles = ∅) :
    name ∈ (addSamples samples resolve map).1.profiles ↔
      received map resolve samples name ≠ [] := by
  have accounts := Accounts.addSamples samples resolve map (vacant ▸ accounts_empty)
  rw [accounts.mem_iff, received, Ne, List.map_eq_nil_iff, visitsTo, List.filter_eq_nil_iff]
  simp

/-- The total of a profile is what was received under its name. -/
theorem total_addSamples (vacant : map.profiles = ∅) {profile : FunctionProfile}
    (held : (addSamples samples resolve map).1.profiles[name]? = some profile) :
    profile.root.total = satSum (received map resolve samples name) := by
  have accounts := Accounts.addSamples samples resolve map (vacant ▸ accounts_empty)
  have total := (accounts.accounts name profile held).total_eq []
  simp only [FunctionProfile.nodeAt_nil, List.isPrefixOf_nil_left, tally_true,
    List.nil_append] at total
  exact total

/-- A name is reported when what it received reaches the threshold. -/
theorem emits_addSamples (vacant : map.profiles = ∅) :
    (addSamples samples resolve map).1.Emits name ↔
      received map resolve samples name ≠ [] ∧
        (map.ignoreThreshold ∨ map.threshold ≤ satSum (received map resolve samples name)) := by
  rw [fst_addSamples, ProfileMap.emits_iff, ← mem_addSamples vacant,
    Std.ExtTreeMap.mem_iff_isSome_getElem?, Option.isSome_iff_exists]
  constructor
  · rintro ⟨profile, held, reached⟩
    exact ⟨⟨profile, held⟩, total_addSamples vacant held ▸ reached⟩
  · rintro ⟨⟨profile, held⟩, reached⟩
    exact ⟨profile, held, total_addSamples vacant held ▸ reached⟩

/-- A function symbol is listed when its name received nothing. -/
theorem lists_addSamples (vacant : map.profiles = ∅) (member : symbol ∈ map.functions.symbols) :
    (addSamples samples resolve map).1.Lists symbol ↔
      received map resolve samples (Suffix.elide map.markers symbol.name) = [] := by
  rw [fst_addSamples]
  refine Iff.trans (ProfileMap.lists_iff ?_) ?_
  · exact member
  · exact (not_congr (mem_addSamples vacant)).trans not_not

end Listing

end Attribution

end SampleProfile
