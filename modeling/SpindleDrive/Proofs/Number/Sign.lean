import Mathlib.Tactic.Lemma
import SpindleDrive.Proofs.Number.Zero

/-!
# Signs of rounded numbers

Rounding keeps signs, and what is at least one makes nothing vanish, so signs can be read off
products and quotients as if nothing were rounded.

* `Binary32.clampBelow_clampBelow`, `SpeedScale.toCode_clampBelow` — a speed that is clamped at zero
  is clamped once and for all, and has the code of the speed.
* `Binary32.isUnsigned` — no minus sign, which products and quotients inherit;
  `SpeedScale.isUnsigned_toSpeed` — the speed of a code has none.
* `Binary32.isNonneg_signed`, `isNonneg_of_le`, `isZero_of_le`, `isNonneg_div` — what is not below
  zero.
* `Binary32.le_one_add`, **`isNonneg_of_mul`** — one and something more is at least one, and a
  product with what is at least one has the sign of the other factor.
-/

namespace SpindleDrive

/-- A number of `k + 1` bits or more comes after the codes of all numbers with fewer. -/
lemma le_nearestCode {p k n : Nat} (hp : 0 < p) (hk : p ≤ k) (h : 2 ^ k ≤ n) :
    (k - (p - 1) + 1) * 2 ^ (p - 1) ≤ nearestCode p n 1 := by
  have hlarge : ¬n < 2 ^ p := Nat.not_lt.2 (Nat.le_trans (Nat.pow_le_pow_right (by decide) hk) h)
  have hn : n ≠ 0 := by
    rintro rfl
    simp at h
  have hlog : k ≤ n.log2 := (Nat.le_log2 hn).2 h
  obtain ⟨shift, hshift⟩ : ∃ shift, n.log2 = shift + (p - 1) := ⟨n.log2 - (p - 1), by omega⟩
  have hfloor : 2 ^ (p - 1) ≤ n / 2 ^ shift := by
    rw [Nat.le_div_iff_mul_le (Nat.two_pow_pos shift), ← Nat.pow_add, Nat.add_comm, ← hshift]
    exact Nat.log2_self_le hn
  have hnear : 2 ^ (p - 1) ≤ divideEven n (2 ^ shift) := by
    obtain hfloor' | hnext := divideEven_eq_or n (2 ^ shift) <;> omega
  have hsteps : (k - (p - 1) + 1) * 2 ^ (p - 1) ≤ shift * 2 ^ (p - 1) + 2 ^ (p - 1) := by
    rw [← Nat.succ_mul]
    exact Nat.mul_le_mul_right _ (by omega)
  simp only [nearestCode, Nat.div_one, if_neg hlarge, hshift, Nat.add_sub_cancel, Nat.one_mul]
  omega

namespace Binary32

@[simp] lemma clampBelow_clampBelow (x : Binary32) : x.clampBelow.clampBelow = x.clampBelow := by
  cases h : x.isPositive
  · rw [clampBelow_of_not_isPositive h]
    rfl
  · have hclamp : x.clampBelow = x := by simp [clampBelow, h]
    rw [hclamp, hclamp]

/-! ## No minus sign -/

/-- Whether a value has no minus sign; a NaN has none. -/
def isUnsigned : Binary32 → Bool
  | nan => true
  | signed negative _ _ => !negative

variable {x y : Binary32}

lemma isUnsigned_ofNat (n : Nat) : (ofNat n).isUnsigned = true := rfl

lemma isUnsigned_of_isPositive (h : x.isPositive = true) : x.isUnsigned = true := by
  obtain ⟨code, hcode, rfl, -⟩ := exists_of_isPositive h
  rfl

lemma isUnsigned_mul (hx : x.isUnsigned = true) (hy : y.isUnsigned = true) :
    (x * y).isUnsigned = true := by
  show (mul x y).isUnsigned = true
  rcases x with _ | ⟨s, a, ha⟩
  · rfl
  rcases y with _ | ⟨t, b, hb⟩
  · rfl
  obtain rfl : s = false := by simpa [isUnsigned] using hx
  obtain rfl : t = false := by simpa [isUnsigned] using hy
  rw [mul]
  split
  · split <;> rfl
  · rfl

lemma isUnsigned_div (hx : x.isUnsigned = true) (hy : y.isUnsigned = true) :
    (x / y).isUnsigned = true := by
  show (div x y).isUnsigned = true
  rcases x with _ | ⟨s, a, ha⟩
  · rfl
  rcases y with _ | ⟨t, b, hb⟩
  · rfl
  obtain rfl : s = false := by simpa [isUnsigned] using hx
  obtain rfl : t = false := by simpa [isUnsigned] using hy
  rw [div]
  split
  · split <;> rfl
  split
  · rfl
  split
  · split <;> rfl
  · rfl

/-! ## Not below zero -/

lemma isNonneg_signed {s : Bool} {a : Nat} {ha : a ≤ infinityCode} :
    (signed s a ha).isNonneg = true ↔ s = false ∨ a = 0 := by
  cases s
  · simp [isNonneg, le, zero, ofCode, place]
  · simp [isNonneg, le, zero, ofCode, place]

/-- What lies above an unsigned number is not below zero. -/
lemma isNonneg_of_le (hx : x.isUnsigned = true) (h : le x y = true) : y.isNonneg = true := by
  rcases x with _ | ⟨s, a, ha⟩
  · simp [le] at h
  rcases y with _ | ⟨t, b, hb⟩
  · simp [le] at h
  obtain rfl : s = false := by simpa [isUnsigned] using hx
  cases t
  · simp [isNonneg_signed]
  · have hplace : (a : Int) ≤ -b := by simpa [le, place] using h
    exact isNonneg_signed.2 (.inr (by omega))

/-- Between zero and zero there is nothing else. -/
lemma isZero_of_le (hlow : le zero x = true) (hhigh : le x zero = true) : x.isZero = true := by
  rcases x with _ | ⟨s, a, ha⟩
  · simp [le] at hhigh
  obtain rfl | rfl := isNonneg_signed.1 hlow
  · simpa [le, zero, ofCode, place, isZero] using hhigh
  · rfl

lemma isNonneg_div (hx : x.isNonneg = true) (hfinite : y.isFinite = true)
    (hpos : y.isPositive = true) : (x / y).isNonneg = true := by
  obtain ⟨b, hb, rfl, hpos⟩ := exists_of_isPositive hpos
  have hlt : b < infinityCode := by simpa [isFinite] using hfinite
  rcases x with _ | ⟨s, a, ha⟩
  · simp [isNonneg, le] at hx
  show (div (signed s a ha) (signed false b hb)).isNonneg = true
  obtain rfl | rfl := isNonneg_signed.1 hx
  · rw [div]
    split
    · rw [if_neg (by omega)]
      exact isNonneg_signed.2 (.inl rfl)
    · rw [if_neg (by omega), if_neg (by omega)]
      exact isNonneg_signed.2 (.inl rfl)
  · have hzero : units 0 * unitsPerOne = 0 := Nat.zero_mul _
    rw [div, if_neg (by decide), if_neg (by omega), if_neg (by omega), hzero, ofQuotient_zero]
    exact isNonneg_signed.2 (.inr (by decide))

/-! ## At least one -/

/-- The code of one. -/
def oneCode : Nat := 0x3F800000

lemma ofNat_one : ofNat 1 = ofCode false oneCode := by decide

lemma units_oneCode : units oneCode = unitsPerOne := by decide

lemma units_pos {code : Nat} (h : 0 < code) : 0 < units code := by
  rw [units, magnitude]
  split
  · exact h
  · exact Nat.mul_pos (by omega) (Nat.two_pow_pos _)

lemma unitsPerOne_le_units {code : Nat} (h : oneCode ≤ code) : unitsPerOne ≤ units code := by
  have hblocks : 126 ≤ code / 2 ^ 23 - 1 := by
    rw [oneCode] at h
    omega
  have hpow : 2 ^ 126 ≤ 2 ^ (code / 2 ^ 23 - 1) := Nat.pow_le_pow_right (by decide) hblocks
  have hsmall : ¬code < 2 ^ (24 - 1) := by
    rw [oneCode] at h
    omega
  rw [units, magnitude]
  rw [if_neg hsmall]
  calc unitsPerOne = 2 ^ 23 * 2 ^ 126 := by decide
    _ ≤ (2 ^ (24 - 1) + code % 2 ^ (24 - 1)) * 2 ^ (code / 2 ^ (24 - 1) - 1) :=
        Nat.mul_le_mul (Nat.le_add_right _ _) hpow

/-- One and something more is at least one. -/
lemma le_one_add (h : x.isNonneg = true) : le (ofNat 1) (ofNat 1 + x) = true := by
  rcases x with _ | ⟨s, a, ha⟩
  · simp [isNonneg, le] at h
  have hone : oneCode < infinityCode := by decide
  have hmin : min oneCode infinityCode = oneCode := by decide
  show le (ofNat 1) (add (ofNat 1) (signed s a ha)) = true
  rw [ofNat_one, ofCode, add, if_neg (by omega)]
  split
  · obtain rfl : s = false := (isNonneg_signed.1 h).resolve_right (by omega)
    simp only [le, ofCode, place, Bool.false_eq_true, if_false, decide_eq_true_eq]
    omega
  · have htotal : (unitsPerOne : Int) ≤ unitSum false (min oneCode infinityCode) s a := by
      rw [unitSum, hmin, units_oneCode]
      obtain rfl | rfl := isNonneg_signed.1 h
      · simp only [Bool.false_eq_true, if_false]
        omega
      · have hzero : units 0 = 0 := rfl
        cases s <;> simp [hzero]
    generalize unitSum false (min oneCode infinityCode) s a = total at htotal
    have hpos : 0 < unitsPerOne := by decide
    have hlarge : 2 ^ 149 ≤ total.natAbs := by
      rw [← unitsPerOne]
      omega
    have hnear : oneCode ≤ nearestCode 24 total.natAbs 1 :=
      le_nearestCode (p := 24) (k := 149) (by decide) (by decide) hlarge
    have hnegative : ¬total < 0 := by omega
    simp only [le, ofQuotient, ofCode, place, if_neg (show ¬total = 0 by omega),
      decide_eq_false hnegative, Bool.false_eq_true, if_false, decide_eq_true_eq]
    omega

/-- What is at least one has no sign, and a code after that of one. -/
lemma exists_of_one_le (h : le (ofNat 1) x = true) :
    ∃ code hcode, x = signed false code hcode ∧ oneCode ≤ code := by
  rcases x with _ | ⟨s, a, ha⟩
  · simp [ofNat_one, ofCode, le] at h
  have hone : 0 < oneCode ∧ oneCode < infinityCode := by decide
  simp only [ofNat_one, ofCode, le, place, Bool.false_eq_true, if_false, decide_eq_true_eq] at h
  cases s
  · simp only [Bool.false_eq_true, if_false] at h
    exact ⟨a, ha, rfl, by omega⟩
  · simp only [if_true] at h
    omega

/-- **What is at least one leaves no sign behind**: a product with it that is not below zero has
another factor that is not. -/
lemma isNonneg_of_mul (hy : le (ofNat 1) y = true) (h : (x * y).isNonneg = true) :
    x.isNonneg = true := by
  rcases x with _ | ⟨s, a, ha⟩
  · have hnan : nan * y = nan := rfl
    rw [hnan] at h
    exact absurd h (by decide)
  obtain ⟨b, hb, rfl, hlarge⟩ := exists_of_one_le hy
  have hone : 0 < oneCode ∧ oneCode < infinityCode := by decide
  obtain rfl | hpos := Nat.eq_zero_or_pos a
  · exact isNonneg_signed.2 (.inr rfl)
  cases s
  · exact isNonneg_signed.2 (.inl rfl)
  -- a negative factor would show, since the product is not rounded to zero
  exfalso
  have hunits : unitsPerOne ≤ units a * units b :=
    Nat.le_trans (unitsPerOne_le_units hlarge) (Nat.le_mul_of_pos_left _ (units_pos hpos))
  have hnear : 0 < nearestCode 24 (units a * units b) unitsPerOne :=
    nearestCode_pos (by decide) (by decide) hunits
  have hproduct : (mul (signed true a ha) (signed false b hb)).isNonneg = true := h
  rw [mul] at hproduct
  split at hproduct
  · rw [if_neg (by omega)] at hproduct
    obtain hsign | hzero := isNonneg_signed.1 hproduct
    · simp at hsign
    · omega
  · obtain hsign | hzero := isNonneg_signed.1 hproduct
    · simp at hsign
    · omega

end Binary32

namespace SpeedScale

/-- A code knows no speed below zero. -/
@[simp] lemma toCode_clampBelow (s : SpeedScale) (rpm : Binary32) :
    s.toCode rpm.clampBelow = s.toCode rpm := by
  rw [toCode, toCode, Binary32.clampBelow_clampBelow]

/-- The speed of a code has no minus sign. -/
lemma isUnsigned_toSpeed (s : SpeedScale) (code : UInt16) :
    (s.toSpeed code).isUnsigned = true :=
  Binary32.isUnsigned_div
    (Binary32.isUnsigned_mul (Binary32.isUnsigned_ofNat _)
      (Binary32.isUnsigned_of_isPositive s.positive))
    (Binary32.isUnsigned_ofNat _)

end SpeedScale

end SpindleDrive
