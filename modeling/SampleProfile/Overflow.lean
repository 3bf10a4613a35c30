/-!
# Sums of words

Addresses, sizes and numbers of samples are words, and most of their sums are exact: where the sum
of two words is no word, the program stops with an `Overflow`.
-/

namespace SampleProfile

/-- Why the program stops in the middle of an addition. -/
inductive Overflow where
  | addition
deriving DecidableEq, Repr

/-- The wording of an overflow. -/
def Overflow.message : Overflow → String
  | addition => "attempt to add with overflow"

/-- A number as a word, if it is one. -/
def exactWord (number : Nat) : Except Overflow UInt64 :=
  if number < UInt64.size then .ok (UInt64.ofNat number) else .error .addition

/-- The sum of two words, if it is a word. -/
def exactSum (left right : UInt64) : Except Overflow UInt64 :=
  exactWord (left.toNat + right.toNat)

variable {number : Nat} {word : UInt64}

theorem exactWord_eq_ok_iff : exactWord number = .ok word ↔ word.toNat = number := by
  by_cases fits : number < UInt64.size
  · rw [exactWord, if_pos fits, Except.ok.injEq, ← UInt64.toNat_inj,
      UInt64.toNat_ofNat_of_lt' fits, eq_comm]
  · rw [exactWord, if_neg fits]
    constructor
    · intro stopped
      cases stopped
    · intro same
      exact absurd (same ▸ word.toNat_lt) fits

theorem exactWord_eq_error_iff :
    exactWord number = .error .addition ↔ UInt64.size ≤ number := by
  by_cases fits : number < UInt64.size
  · simp [exactWord, fits]
  · simp [exactWord, fits, Nat.not_lt.mp fits]

theorem exactWord_ne_error_iff :
    exactWord number ≠ .error .addition ↔ number < UInt64.size := by
  rw [Ne, exactWord_eq_error_iff, Nat.not_le]

/-- What follows a sum finishes exactly if the sum does and it does so from there. -/
theorem bind_eq_ok_iff {Value Result : Type} {before : Except Overflow Value}
    {next : Value → Except Overflow Result} {result : Result} :
    before >>= next = .ok result ↔ ∃ value, before = .ok value ∧ next value = .ok result := by
  cases before with
  | error fault =>
      constructor
      · intro stopped
        cases stopped
      · intro finished
        obtain ⟨_, stopped, _⟩ := finished
        cases stopped
  | ok value =>
      constructor
      · intro finished
        exact ⟨value, rfl, finished⟩
      · intro finished
        obtain ⟨_, same, finished⟩ := finished
        cases same
        exact finished

theorem exactWord_toNat (word : UInt64) : exactWord word.toNat = .ok word :=
  exactWord_eq_ok_iff.mpr rfl

end SampleProfile
