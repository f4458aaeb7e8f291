import SpindleDrive.Proofs.Number.Nearest
import SpindleDrive.Proofs.Number.Sign
import SpindleDrive.Spindle.SpeedData

/-!
# The band around a speed

The band of a tolerance is computed with three roundings on each side.  None of them carries a
limit past the speed itself.

* `Binary32.nearestCode_units` — a number is nearest to itself.
* `Binary32.sub_le_one` — one less something is at most one.
* `Binary32.le_mul`, `Binary32.mul_le` — a product with what is at least one, and with what is at
  most one.
* **`SpeedData.accepts_program`** — a speed lies in its own band.
-/

namespace SpindleDrive

namespace Binary32

/-- A number is nearest to itself. -/
lemma nearestCode_units (code : Nat) : nearestCode 24 (units code) 1 = code := by
  obtain ⟨s, r, rfl, henough, hless⟩ := exists_grid 24 code
  have hunits : units (s * 2 ^ (24 - 1) + r) = r * 2 ^ s := magnitude_grid ⟨henough, hless.le⟩
  apply (magnitude_strictMono 24).injective
  rw [hunits, magnitude_nearestCode_mul_pow (by decide) hless, ← hunits, units]

variable {x y : Binary32}

/-- One less something is at most one. -/
lemma sub_le_one (h : x.isNonneg = true) : le (ofNat 1 - x) (ofNat 1) = true := by
  rcases x with _ | ⟨s, a, ha⟩
  · simp [isNonneg, le] at h
  have hone : oneCode < infinityCode := by decide
  have hmin : min oneCode infinityCode = oneCode := by decide
  show le (add (ofNat 1) (signed (!s) a ha)) (ofNat 1) = true
  rw [ofNat_one, ofCode, add, if_neg (by omega)]
  split
  · obtain rfl : s = false := (isNonneg_signed.1 h).resolve_right (by omega)
    simp only [le, ofCode, place, Bool.not_false, if_true, Bool.false_eq_true, if_false,
      decide_eq_true_eq]
    omega
  · have htotal : unitSum false (min oneCode infinityCode) (!s) a ≤ (unitsPerOne : Int) := by
      rw [unitSum, hmin, units_oneCode]
      obtain rfl | rfl := isNonneg_signed.1 h
      · simp only [Bool.not_false, if_true, Bool.false_eq_true, if_false]
        omega
      · have hzero : units 0 = 0 := rfl
        cases s <;> simp [hzero]
    generalize unitSum false (min oneCode infinityCode) (!s) a = total at htotal
    by_cases hnegative : total < 0
    · simp only [le, ofQuotient, ofCode, place, if_neg hnegative.ne, decide_eq_true hnegative,
        if_true, Bool.false_eq_true, if_false, decide_eq_true_eq]
      omega
    · have hnear : nearestCode 24 total.natAbs 1 ≤ oneCode := by
        rw [← nearestCode_units oneCode, units_oneCode]
        exact nearestCode_mono (by decide) Nat.one_pos Nat.one_pos (by omega)
      have hsign : (if total = 0 then false && !s else decide (total < 0)) = false := by
        rw [decide_eq_false hnegative, Bool.false_and, ite_self]
      simp only [hsign, le, ofQuotient, ofCode, place, Bool.false_eq_true, if_false,
        decide_eq_true_eq]
      omega

/-- A product with what is at least one is no less. -/
lemma le_mul (hpos : x.isPositive = true) (h : le (ofNat 1) y = true) : le x (x * y) = true := by
  obtain ⟨a, ha, rfl, hpos⟩ := exists_of_isPositive hpos
  obtain ⟨b, hb, rfl, hlarge⟩ := exists_of_one_le h
  have hone : 0 < oneCode := by decide
  show le (signed false a ha) (mul (signed false a ha) (signed false b hb)) = true
  rw [mul]
  split
  · rw [if_neg (by omega)]
    simp only [le, ofCode, place, bne_self_eq_false, Bool.false_eq_true, if_false,
      decide_eq_true_eq]
    omega
  · have hnear : a ≤ nearestCode 24 (units a * units b) unitsPerOne := by
      conv_lhs => rw [← nearestCode_units a]
      refine nearestCode_mono (by decide) Nat.one_pos (by decide) ?_
      rw [Nat.mul_one]
      exact Nat.mul_le_mul_left _ (unitsPerOne_le_units hlarge)
    simp only [le, ofQuotient, ofCode, place, bne_self_eq_false, Bool.false_eq_true, if_false,
      decide_eq_true_eq]
    omega

/-- A product with what is at most one is no more. -/
lemma mul_le (hpos : x.isPositive = true) (hfinite : x.isFinite = true)
    (h : le y (ofNat 1) = true) : le (x * y) x = true := by
  obtain ⟨a, ha, rfl, hpos⟩ := exists_of_isPositive hpos
  have hlt : a < infinityCode := by simpa [isFinite] using hfinite
  rcases y with _ | ⟨t, b, hb⟩
  · simp [le] at h
  have hone : oneCode < infinityCode := by decide
  show le (mul (signed false a ha) (signed t b hb)) (signed false a ha) = true
  rw [mul]
  cases t with
  | true =>
      have hsign : (false != true) = true := rfl
      split
      · rw [if_neg (by omega)]
        simp only [hsign, le, ofCode, place, if_true, Bool.false_eq_true, if_false,
          decide_eq_true_eq]
        omega
      · simp only [hsign, le, ofQuotient, ofCode, place, if_true, Bool.false_eq_true, if_false,
          decide_eq_true_eq]
        omega
  | false =>
      have hsmall : b ≤ oneCode := by
        simp only [ofNat_one, ofCode, le, place, Bool.false_eq_true, if_false,
          decide_eq_true_eq] at h
        omega
      have hnear : nearestCode 24 (units a * units b) unitsPerOne ≤ a := by
        conv_rhs => rw [← nearestCode_units a]
        refine nearestCode_mono (by decide) (by decide) Nat.one_pos ?_
        rw [Nat.mul_one, ← units_oneCode]
        exact Nat.mul_le_mul_left _ ((magnitude_strictMono 24).monotone hsmall)
      rw [if_neg (by omega)]
      simp only [le, ofQuotient, ofCode, place, bne_self_eq_false, Bool.false_eq_true, if_false,
        decide_eq_true_eq]
      omega

end Binary32

/-- **A speed lies in its own band**, whatever the tolerance. -/
theorem SpeedData.accepts_program (d : SpeedData) {rpm tolerance : Binary32}
    (hpos : rpm.isPositive = true) (hfinite : rpm.isFinite = true)
    (htolerance : tolerance.isNonneg = true) : (d.program rpm tolerance).accepts rpm = true := by
  have hshare : (tolerance / hundred).isNonneg = true :=
    Binary32.isNonneg_div htolerance (by decide) (Binary32.isPositive_ofNat (by decide))
  have hlow : Binary32.le (d.program rpm tolerance).low rpm = true :=
    Binary32.mul_le hpos hfinite (Binary32.sub_le_one hshare)
  have hhigh : Binary32.le rpm (d.program rpm tolerance).high = true :=
    Binary32.le_mul hpos (Binary32.le_one_add hshare)
  rw [accepts, hlow, hhigh, Bool.and_true, Bool.or_true]

end SpindleDrive
