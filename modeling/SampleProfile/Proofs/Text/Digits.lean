import SampleProfile.Json
import SampleProfile.Text.Blank
import SampleProfile.Text.Integer

/-!
# Reading back written numbers

Digits in a base up to sixteen are read as the number that they were written for, if it does not
pass the limit.  No digit is a blank or one of the signs that stand between numbers.
-/

namespace SampleProfile.Text

/-! ## Digits -/

theorem digit?_digitChar {base digit : Nat} (small : base ≤ 16) (below : digit < base) :
    digit? base (Nat.digitChar digit) = some digit := by
  have every : ∀ digit : Fin 16, ∀ base : Fin 17, digit.val < base.val →
      digit? base.val (Nat.digitChar digit.val) = some digit.val := by decide
  exact every ⟨digit, by omega⟩ ⟨base, by omega⟩ below

theorem isBlank_digitChar {digit : Nat} (below : digit < 16) :
    isBlank (Nat.digitChar digit) = false := by
  have every : ∀ digit : Fin 16, isBlank (Nat.digitChar digit.val) = false := by decide
  exact every ⟨digit, below⟩

/-- A number is written in digits of its base. -/
theorem exists_of_mem_toDigits {base number : Nat} (twoLe : 2 ≤ base) {char : Char}
    (member : char ∈ Nat.toDigits base number) : ∃ digit < base, char = Nat.digitChar digit := by
  induction number using Nat.strongRecOn with
  | ind number inductionHypothesis =>
      by_cases single : number < base
      · rw [Nat.toDigits_of_lt_base single, List.mem_singleton] at member
        exact ⟨number, single, member⟩
      · have positive : 0 < number := by omega
        have shorter : number / base < number := Nat.div_lt_self positive twoLe
        rw [Nat.toDigits_of_base_le twoLe (Nat.le_of_not_lt single), List.mem_append] at member
        rcases member with earlier | last
        · exact inductionHypothesis (number / base) shorter earlier
        · rw [List.mem_singleton] at last
          exact ⟨number % base, Nat.mod_lt _ (by omega), last⟩

theorem isBlank_of_mem_toDigits {base number : Nat} (twoLe : 2 ≤ base) (small : base ≤ 16)
    {char : Char} (member : char ∈ Nat.toDigits base number) : isBlank char = false := by
  obtain ⟨digit, below, rfl⟩ := exists_of_mem_toDigits twoLe member
  exact isBlank_digitChar (by omega)

/-- A character that is written for no digit occurs in no number. -/
theorem not_mem_toDigits {base number : Nat} (twoLe : 2 ≤ base) {char : Char}
    (noDigit : ∀ digit < base, char ≠ Nat.digitChar digit) :
    char ∉ Nat.toDigits base number := by
  intro member
  obtain ⟨digit, below, same⟩ := exists_of_mem_toDigits twoLe member
  exact noDigit digit below same

theorem not_mem_hexDigits {char : Char} (noDigit : ∀ digit < 16, char ≠ Nat.digitChar digit)
    (value : UInt64) : char ∉ hexDigits value :=
  not_mem_toDigits (by decide) noDigit

theorem isBlank_of_mem_hexDigits {value : UInt64} {char : Char}
    (member : char ∈ hexDigits value) : isBlank char = false :=
  isBlank_of_mem_toDigits (by decide) (by decide) member

theorem isBlank_of_mem_decimalDigits {value : UInt64} {char : Char}
    (member : char ∈ decimalDigits value) : isBlank char = false :=
  isBlank_of_mem_toDigits (by decide) (by decide) member

/-! ## Numbers -/

theorem readDigits_append (base limit : Nat) (overflow : IntegerFault) (value : Nat)
    (first second : List Char) :
    readDigits base limit overflow value (first ++ second) =
      (readDigits base limit overflow value first).bind fun reached =>
        readDigits base limit overflow reached second := by
  induction first generalizing value with
  | nil => rfl
  | cons char rest inductionHypothesis =>
      rw [List.cons_append, readDigits, readDigits]
      cases digit? base char with
      | none => rfl
      | some digit =>
          by_cases fits : value * base + digit ≤ limit
          · simp only [fits, if_true]
            exact inductionHypothesis _
          · simp only [fits, if_false]
            rfl

theorem readDigits_toDigits {base limit number : Nat} (overflow : IntegerFault)
    (twoLe : 2 ≤ base) (small : base ≤ 16) (fits : number ≤ limit) :
    readDigits base limit overflow 0 (Nat.toDigits base number) = .ok number := by
  induction number using Nat.strongRecOn with
  | ind number inductionHypothesis =>
      by_cases single : number < base
      · rw [Nat.toDigits_of_lt_base single, readDigits, digit?_digitChar small single]
        simp only [Nat.zero_mul, Nat.zero_add, fits, if_true]
        rfl
      · have positive : 0 < number := by omega
        have shorter : number / base < number := Nat.div_lt_self positive twoLe
        have last : number % base < base := Nat.mod_lt _ (by omega)
        have whole : number / base * base + number % base = number := Nat.div_add_mod' ..
        rw [Nat.toDigits_of_base_le twoLe (Nat.le_of_not_lt single), readDigits_append,
          inductionHypothesis _ shorter (by omega)]
        simp only [Except.bind, readDigits, digit?_digitChar small last, whole, fits, if_true]

/-- Different numbers are written differently. -/
theorem toDigits_injective {first second : Nat}
    (same : Nat.toDigits 10 first = Nat.toDigits 10 second) : first = second := by
  have read := congrArg (fun digits => Nat.ofDigitChars 10 digits 0) same
  simpa only [Nat.ofDigitChars_ten_toDigits] using read

theorem decimalDigits_injective {first second : UInt64}
    (same : decimalDigits first = decimalDigits second) : first = second :=
  UInt64.toNat_inj.mp (toDigits_injective same)

theorem not_mem_decimalDigits {char : Char} (noDigit : ∀ digit < 10, char ≠ Nat.digitChar digit)
    (value : UInt64) : char ∉ decimalDigits value :=
  not_mem_toDigits (by decide) noDigit

theorem readUnsigned_eq_readDigits (base limit : Nat) {chars : List Char} (nonempty : chars ≠ [])
    (unsigned : '+' ∉ chars) :
    readUnsigned base limit chars = readDigits base limit .tooLarge 0 chars := by
  cases chars with
  | nil => exact absurd rfl nonempty
  | cons first rest =>
      have noSign : first ≠ '+' := fun sign => unsigned (sign ▸ List.mem_cons_self)
      unfold readUnsigned
      split
      · contradiction
      · simp_all
      · simp_all
      · rfl

theorem readUnsigned_toDigits {base limit number : Nat} (twoLe : 2 ≤ base) (small : base ≤ 16)
    (fits : number ≤ limit) :
    readUnsigned base limit (Nat.toDigits base number) = .ok number := by
  have unsigned : '+' ∉ Nat.toDigits base number :=
    not_mem_toDigits twoLe fun digit _ same => by simp at same
  rw [readUnsigned_eq_readDigits base limit Nat.toDigits_ne_nil unsigned,
    readDigits_toDigits _ twoLe small fits]

theorem readUInt64_toDigits {base : Nat} (twoLe : 2 ≤ base) (small : base ≤ 16) (value : UInt64) :
    readUInt64 base (Nat.toDigits base value.toNat) = .ok value := by
  have bound := value.toNat_lt
  have fits : value.toNat ≤ UInt64.size - 1 := by
    rw [UInt64.size]
    omega
  rw [readUInt64, readUnsigned_toDigits twoLe small fits]
  exact congrArg Except.ok (UInt64.ofNat_toNat ..)

theorem readUInt64_decimalDigits (value : UInt64) :
    readUInt64 10 (decimalDigits value) = .ok value :=
  readUInt64_toDigits (by decide) (by decide) value

/-- An address reads back with or without the mark of its base. -/
theorem readAddress_hexDigits (value : UInt64) :
    readAddress (hexDigits value) = .ok value ∧
      readAddress ('0' :: 'x' :: hexDigits value) = .ok value := by
  have read : readUInt64 16 (hexDigits value) = .ok value :=
    readUInt64_toDigits (by decide) (by decide) value
  have unmarked : 'x' ∉ hexDigits value :=
    not_mem_toDigits (by decide) fun digit _ same => by simp at same
  refine ⟨?_, read⟩
  unfold readAddress
  split
  · next digits marked =>
    rw [marked] at unmarked
    simp at unmarked
  · exact read

/-! ## Signed numbers -/

theorem readInt64_eq_readDigits {chars : List Char} (nonempty : chars ≠ []) (noPlus : '+' ∉ chars)
    (noMinus : '-' ∉ chars) :
    readInt64 chars = (readDigits 10 (UInt64.size / 2 - 1) .tooLarge 0 chars).map fun value =>
      Int64.ofInt value := by
  cases chars with
  | nil => exact absurd rfl nonempty
  | cons first rest =>
      have firstNoPlus : first ≠ '+' := fun sign => noPlus (sign ▸ List.mem_cons_self)
      have firstNoMinus : first ≠ '-' := fun sign => noMinus (sign ▸ List.mem_cons_self)
      unfold readInt64
      split <;> simp_all

theorem readInt64_minus_cons {digits : List Char} (nonempty : digits ≠ []) :
    readInt64 ('-' :: digits) =
      (readDigits 10 (UInt64.size / 2) .tooSmall 0 digits).map fun value =>
        Int64.ofInt (-value) := by
  unfold readInt64
  split <;> simp_all

/-- Every signed number reads back; only a negative one may be as large as half of all words. -/
theorem readInt64_integerText (value : Int64) :
    readInt64 (Json.integerText value.toInt) = .ok value := by
  have least := value.le_toInt
  have greatest := value.toInt_lt
  have half : UInt64.size / 2 = 2 ^ 63 := by decide
  rw [Json.integerText]
  by_cases negative : value.toInt < 0
  · have fits : value.toInt.natAbs ≤ UInt64.size / 2 := by omega
    have magnitude : -(value.toInt.natAbs : Int) = value.toInt := by omega
    have restored : Int64.ofInt (-value.toInt.natAbs) = value := by
      rw [magnitude, Int64.ofInt_toInt]
    rw [if_pos negative, readInt64_minus_cons Nat.toDigits_ne_nil,
      readDigits_toDigits _ (by decide) (by decide) fits]
    exact congrArg Except.ok restored
  · have fits : value.toInt.natAbs ≤ UInt64.size / 2 - 1 := by omega
    have magnitude : (value.toInt.natAbs : Int) = value.toInt := by omega
    have restored : Int64.ofInt value.toInt.natAbs = value := by
      rw [magnitude, Int64.ofInt_toInt]
    have noPlus : '+' ∉ Nat.toDigits 10 value.toInt.natAbs :=
      not_mem_toDigits (by decide) (by decide)
    have noMinus : '-' ∉ Nat.toDigits 10 value.toInt.natAbs :=
      not_mem_toDigits (by decide) (by decide)
    rw [if_neg negative, readInt64_eq_readDigits Nat.toDigits_ne_nil noPlus noMinus,
      readDigits_toDigits _ (by decide) (by decide) fits]
    exact congrArg Except.ok restored

theorem isBlank_of_mem_integerText {value : Int} {char : Char}
    (member : char ∈ Json.integerText value) : isBlank char = false := by
  rw [Json.integerText] at member
  split at member
  · rcases List.mem_cons.mp member with rfl | digit
    · decide
    · exact isBlank_of_mem_toDigits (by decide) (by decide) digit
  · exact isBlank_of_mem_toDigits (by decide) (by decide) member

theorem not_mem_integerText {char : Char} (noMinus : char ≠ '-')
    (noDigit : ∀ digit < 10, char ≠ Nat.digitChar digit) (value : Int) :
    char ∉ Json.integerText value := by
  have absent : char ∉ Nat.toDigits 10 value.natAbs := not_mem_toDigits (by decide) noDigit
  rw [Json.integerText]
  split
  · rw [List.mem_cons, not_or]
    exact ⟨noMinus, absent⟩
  · exact absent

end SampleProfile.Text
