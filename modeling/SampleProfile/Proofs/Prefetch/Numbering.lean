import Mathlib.Data.List.Induction
import Std.Data.String.ToNat
import SampleProfile.Prefetch.Hint
import SampleProfile.Proofs.Occasions
import SampleProfile.Proofs.Text.Blank
import SampleProfile.Proofs.Text.Digits

/-!
# Numbering hints

A hint is numbered by the hints before it at the same address.  Whatever characters a type contains,
the number is what stands behind the last underscore of the target's name, so that hints at one
address never share a name.
-/

namespace SampleProfile

namespace Hint

/-! ## Names of targets -/

/-- The name of a target determines the type and the number of its hint. -/
theorem targetName_inj {kind otherKind : String} {number otherNumber : Nat} :
    targetName kind number = targetName otherKind otherNumber ↔
      kind = otherKind ∧ number = otherNumber := by
  constructor
  · intro same
    -- Digits hold no underscore, so that the last one of a name parts its type from its number.
    have cut : ∀ (kind : String) (number : Nat),
        Text.cutAtLast '_' (targetName kind number).toList =
          some (targetStart.toList ++ kind.toList, (toString number).toList) := by
      intro kind number
      have noUnderscore : '_' ∉ (toString number).toList := by
        rw [show toString number = number.repr from rfl, Nat.toList_repr]
        exact Text.not_mem_toDigits (by decide) (by decide)
      rw [targetName, String.toList_append, String.toList_append, String.toList_append,
        List.append_assoc]
      exact Text.cutAtLast_append noUnderscore _
    have parts := cut kind number
    rw [same, cut otherKind otherNumber, Option.some_inj, Prod.mk.injEq,
      List.append_cancel_left_eq, String.toList_inj, String.toList_inj] at parts
    exact ⟨parts.1.symm, (Nat.repr_inj.mp parts.2).symm⟩
  · rintro ⟨rfl, rfl⟩
    rfl

/-- How many of some hints are at an address. -/
def countAt (address : UInt64) (hints : List Hint) : Nat :=
  hints.countP fun hint => hint.address = address

/-- The name of the target for a hint behind others. -/
def nameAfter (earlier : List Hint) (hint : Hint) : String :=
  targetName hint.kind (countAt hint.address earlier)

theorem countAt_concat (address : UInt64) (hints : List Hint) (hint : Hint) :
    countAt address (hints ++ [hint]) =
      countAt address hints + if hint.address = address then 1 else 0 := by
  rw [countAt, List.countP_append, List.countP_singleton]
  simp only [decide_eq_true_eq]
  rfl

theorem countAt_lt {hints earlier : List Hint} {hint : Hint}
    (occasion : (earlier, hint) ∈ occasions hints) :
    countAt hint.address earlier < countAt hint.address hints := by
  obtain ⟨later, rfl⟩ := (mem_occasions_iff hints).mp occasion
  simp only [countAt, List.countP_append, List.countP_cons, decide_true, if_true]
  omega

theorem countAt_le_length (address : UInt64) (hints : List Hint) :
    countAt address hints ≤ hints.length :=
  List.countP_le_length

/-- Among fewer hints than there are numbers none runs out. -/
theorem countAt_mod_size {hints earlier : List Hint} {hint : Hint}
    (few : hints.length < UInt32.size) (occasion : (earlier, hint) ∈ occasions hints) :
    countAt hint.address earlier % UInt32.size = countAt hint.address earlier := by
  have less := countAt_lt occasion
  have most := countAt_le_length hint.address hints
  exact Nat.mod_eq_of_lt (by omega)

theorem pairwise_nameAfter (hints : List Hint) :
    (occasions hints).Pairwise fun left right =>
      left.2.address = right.2.address → nameAfter left.1 left.2 ≠ nameAfter right.1 right.2 := by
  induction hints using List.reverseRecOn with
  | nil => exact List.Pairwise.nil
  | append_singleton earlier hint inductionHypothesis =>
      rw [occasions_concat, List.pairwise_append]
      refine ⟨inductionHypothesis, List.pairwise_singleton _ _, ?_⟩
      rintro ⟨before, first⟩ member second later sameAddress sameName
      obtain rfl := List.mem_singleton.mp later
      have less := countAt_lt member
      have sameNumber := (targetName_inj.mp sameName).2
      rw [sameNumber, sameAddress] at less
      exact Nat.lt_irrefl _ less

end Hint

end SampleProfile
