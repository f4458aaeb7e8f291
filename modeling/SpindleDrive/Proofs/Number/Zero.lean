import Mathlib.Tactic.Lemma
import SpindleDrive.Drive.SpeedScale

/-!
# Zero among rounded numbers

A drive that stands reports the code zero, and the driver multiplies it and divides it.  Nothing is
rounded on the way: zero stays the positive zero as long as the factors are positive and finite.

* `nearestCode_zero`, `nearestCode_pos` — what is rounded to zero, and what is not.
* `Binary32.zero_mul`, `Binary32.zero_div` — zero in products and quotients.
* **`SpeedScale.toSpeed_zero`** — the speed of the code zero is zero.
-/

namespace SpindleDrive

lemma nearestCode_zero (p d : Nat) : nearestCode p 0 d = 0 := by
  simp [nearestCode, divideEven]

/-- What makes up a unit is not nearest to nothing. -/
lemma nearestCode_pos {p n d : Nat} (hp : 0 < p) (hd : 0 < d) (h : d ≤ n) :
    0 < nearestCode p n d := by
  have hquotient : 1 ≤ n / d := (Nat.one_le_div_iff hd).2 h
  by_cases hsmall : n / d < 2 ^ p
  · have hnear : n / d ≤ divideEven n d := by
      obtain hfloor | hnext := divideEven_eq_or n d <;> omega
    simp only [nearestCode, if_pos hsmall, Nat.zero_mul, Nat.zero_add, Nat.pow_zero, Nat.mul_one]
    omega
  · have hlog : p ≤ (n / d).log2 := (Nat.le_log2 (by omega)).2 (Nat.not_lt.1 hsmall)
    have hshift : 0 < (n / d).log2 - (p - 1) := by omega
    have hsteps : 0 < ((n / d).log2 - (p - 1)) * 2 ^ (p - 1) :=
      Nat.mul_pos hshift (Nat.two_pow_pos _)
    simp only [nearestCode, if_neg hsmall]
    omega

namespace Binary32

lemma ofQuotient_zero (negative : Bool) (d : Nat) :
    ofQuotient negative 0 d = ofCode negative 0 := by
  rw [ofQuotient, nearestCode_zero]

/-- A positive number has no sign and a code that is not zero. -/
lemma exists_of_isPositive {x : Binary32} (h : x.isPositive = true) :
    ∃ code hcode, x = signed false code hcode ∧ 0 < code := by
  cases x with
  | nan => simp [isPositive, lt] at h
  | signed negative code hcode =>
      have hplace : 0 < place negative code := by
        simpa [isPositive, lt, zero, ofCode, place] using h
      cases negative
      · exact ⟨code, hcode, rfl, by simpa [place] using hplace⟩
      · simp [place] at hplace
        omega

lemma isZero_of_isPositive {x : Binary32} (h : x.isPositive = true) : x.isZero = false := by
  obtain ⟨code, hcode, rfl, hpos⟩ := exists_of_isPositive h
  exact decide_eq_false (Nat.ne_of_gt hpos)

lemma isPositive_ofNat {n : Nat} (h : 0 < n) : (ofNat n).isPositive = true := by
  have hn : 1 ≤ n * unitsPerOne := Nat.mul_pos h (by decide)
  have hcode : 0 < min (nearestCode 24 (n * unitsPerOne) 1) infinityCode :=
    Nat.lt_min.2 ⟨nearestCode_pos (by decide) (by decide) hn, by decide⟩
  simpa [isPositive, lt, zero, ofNat, ofQuotient, ofCode, place] using hcode

lemma zero_mul {x : Binary32} (hfinite : x.isFinite = true) (hpos : x.isPositive = true) :
    zero * x = zero := by
  obtain ⟨code, hcode, rfl, hpos⟩ := exists_of_isPositive hpos
  have hlt : code < infinityCode := by simpa [isFinite] using hfinite
  have hne : ¬(0 = infinityCode ∨ code = infinityCode) := by
    rintro (h | h)
    · exact absurd h (by decide)
    · omega
  have hzero : units 0 * units code = 0 := Nat.zero_mul _
  show mul (signed false 0 (Nat.zero_le _)) (signed false code hcode) = zero
  rw [mul, if_neg hne, hzero, ofQuotient_zero]
  rfl

lemma zero_div {x : Binary32} (hpos : x.isPositive = true) : zero / x = zero := by
  obtain ⟨code, hcode, rfl, hpos⟩ := exists_of_isPositive hpos
  have hzero : units 0 * unitsPerOne = 0 := Nat.zero_mul _
  show div (signed false 0 (Nat.zero_le _)) (signed false code hcode) = zero
  rw [div, if_neg (by decide)]
  split
  · rfl
  · rw [if_neg (by omega), hzero, ofQuotient_zero]
    rfl

end Binary32

/-- **The speed of a drive that stands is zero.** -/
theorem SpeedScale.toSpeed_zero (s : SpeedScale) : s.toSpeed 0 = .zero := by
  have hunits : 0 < s.unitsPerHz.toNat :=
    Nat.pos_of_ne_zero fun h => s.units_ne_zero (UInt16.toNat_inj.1 h)
  have hzero : Binary32.ofNat 0 = .zero := rfl
  show Binary32.ofNat 0 * s.rpmPerHz / s.units = .zero
  rw [hzero, Binary32.zero_mul s.finite s.positive, units,
    Binary32.zero_div (Binary32.isPositive_ofNat hunits)]

end SpindleDrive
