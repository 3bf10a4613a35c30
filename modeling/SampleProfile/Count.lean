/-!
# Counts

Sample counts are 64-bit numbers whose sums stop at the largest value.  A count attached to a source
position or to a call target is either a number of executions or the signed distance of a cache
prefetch; the two kinds never add up.
-/

namespace SampleProfile

/-- The value at which sums of sample counts stop growing. -/
def countLimit : UInt64 := 18446744073709551615

/-- The sum of two sample counts, held at `countLimit` when it does not fit. -/
def satAdd (left right : UInt64) : UInt64 :=
  if left + right < left then countLimit else left + right

/-- A saturating sum is the true sum cut off at the limit. -/
theorem toNat_satAdd (left right : UInt64) :
    (satAdd left right).toNat =
      min (left.toNat + right.toNat) countLimit.toNat := by
  have leftBound := left.toNat_lt
  have rightBound := right.toNat_lt
  have limit : countLimit.toNat = 18446744073709551615 := rfl
  unfold satAdd
  split
  · next wrapped =>
    rw [UInt64.lt_iff_toNat_lt, UInt64.toNat_add] at wrapped
    omega
  · next kept =>
    rw [UInt64.lt_iff_toNat_lt, UInt64.toNat_add] at kept
    rw [UInt64.toNat_add]
    omega

/-- The saturating sum of a list of sample counts. -/
def satSum (counts : List UInt64) : UInt64 :=
  counts.foldl satAdd 0

/-- What is counted at a source position or for a call target. -/
inductive Count where
  | execution (samples : UInt64)
  | prefetchDelta (delta : Int64)
deriving DecidableEq, Repr

namespace Count

instance : Inhabited Count := ⟨execution 0⟩

/-- The value in the unsigned field of the profile format: a delta is stored as its two's complement
bits. -/
def raw : Count → UInt64
  | execution samples => samples
  | prefetchDelta delta => delta.toUInt64

/-- Folds a second count into the first.  Executions add up; a delta only replaces an empty
execution count, since deltas for one target are not additive. -/
def accumulate : Count → Count → Count
  | execution left, execution right => execution (satAdd left right)
  | execution left, prefetchDelta delta =>
      if left = 0 then prefetchDelta delta else execution left
  | prefetchDelta delta, _ => prefetchDelta delta

/-- The empty execution count is neutral on the left for every kind of count. -/
@[simp]
theorem empty_accumulate (count : Count) :
    accumulate (execution 0) count = count := by
  cases count with
  | execution samples =>
      have sum : satAdd 0 samples = samples := by
        apply UInt64.toNat_inj.mp
        have bound := samples.toNat_lt
        have limit : countLimit.toNat = 18446744073709551615 := rfl
        rw [toNat_satAdd]
        simp only [UInt64.toNat_zero]
        omega
      simp [accumulate, sum]
  | prefetchDelta delta => simp [accumulate]

end Count

end SampleProfile
