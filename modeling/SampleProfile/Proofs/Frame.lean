import SampleProfile.Frame
import SampleProfile.Proofs.Text.Blank
import SampleProfile.Proofs.Text.Digits

/-!
# Written line offsets

A line offset is written in digits and at most one point, and different offsets are written
differently.
-/

namespace SampleProfile.LineOffset

theorem toList_render (offset : LineOffset) :
    offset.render.toList = Nat.toDigits 10 offset.line.toNat ++
      if offset.discriminator = 0 then []
      else '.' :: Nat.toDigits 10 offset.discriminator.toNat := by
  rw [render]
  split
  · simp [toString, Nat.repr]
  · simp [toString, Nat.repr]

theorem not_mem_render {char : Char} (noDigit : ∀ digit < 10, char ≠ Nat.digitChar digit)
    (noPoint : char ≠ '.') (offset : LineOffset) : char ∉ offset.render.toList := by
  have digitless (number : Nat) : char ∉ Nat.toDigits 10 number :=
    Text.not_mem_toDigits (by decide) noDigit
  rw [toList_render]
  split
  · simp [digitless]
  · simp [digitless, noPoint]

theorem splitOn_render (offset : LineOffset) :
    Text.splitOn '.' offset.render.toList = Nat.toDigits 10 offset.line.toNat ::
      if offset.discriminator = 0 then []
      else [Nat.toDigits 10 offset.discriminator.toNat] := by
  have pointless (number : Nat) : '.' ∉ Nat.toDigits 10 number :=
    Text.not_mem_toDigits (by decide) (by decide)
  rw [toList_render]
  split
  · rw [List.append_nil, Text.splitOn_of_not_mem (pointless _)]
  · rw [Text.splitOn_append (pointless _), Text.splitOn_of_not_mem (pointless _)]

theorem render_injective {left right : LineOffset} (same : left.render = right.render) :
    left = right := by
  have parts := congrArg (fun text : String => Text.splitOn '.' text.toList) same
  simp only [splitOn_render, List.cons.injEq] at parts
  obtain ⟨lineText, discriminatorText⟩ := parts
  have sameLine : left.line = right.line :=
    UInt32.toNat_inj.mp (Text.toDigits_injective lineText)
  have sameDiscriminator : left.discriminator = right.discriminator := by
    by_cases leftZero : left.discriminator = 0
    · by_cases rightZero : right.discriminator = 0
      · rw [leftZero, rightZero]
      · simp [leftZero, rightZero] at discriminatorText
    · by_cases rightZero : right.discriminator = 0
      · simp [leftZero, rightZero] at discriminatorText
      · rw [if_neg leftZero, if_neg rightZero, List.cons.injEq] at discriminatorText
        exact UInt32.toNat_inj.mp (Text.toDigits_injective discriminatorText.1)
  cases left
  cases right
  exact congr (congrArg LineOffset.mk sameLine) sameDiscriminator

end SampleProfile.LineOffset
