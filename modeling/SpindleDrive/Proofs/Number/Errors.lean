import Mathlib.Algebra.Order.Field.Basic
import Mathlib.Algebra.Order.Field.Rat
import Mathlib.Data.Rat.Cast.Order
import Mathlib.Tactic.FieldSimp
import Mathlib.Tactic.Linarith
import Mathlib.Tactic.NormNum
import Mathlib.Tactic.Ring
import SpindleDrive.Proofs.Number.Order

/-!
# How far rounding goes

A speed is written as a code through a product, a quotient and the nearest whole number, and a code
is read as a speed through a product and a quotient.  This file adds up what the roundings miss,
over the rationals and without looking at codes of numbers.  Everything is measured in units, the
smallest distance between two numbers, and a step is the speed that one code is apart from the next.

* `Binary32.IsRounded` — what is left of an exact number; `isRounded_nearestCode` — that this is so.
* `Binary32.IsWritten` — how a speed is written; `IsWritten.near` — its code is near it.
* `Binary32.IsRead` — how a code is read; `IsRead.near` — the speed is near it.
* `Binary32.Suits` — how a code stands to a speed, which allows for the last code.
* **`Binary32.abs_sub_le_step`** — there and back is no further than a step, itself rounded.  A step
  of less than a unit brings the speed back exactly, one of a few units misses it by a unit, and one
  of many units by a little more than its half.
-/

namespace SpindleDrive

namespace Binary32

/-! ## Errors of rounding -/

/-- A whole number within half a step of a quotient, which may be written without division. -/
lemma abs_sub_div_le {m n d step : ℕ} (hd : 0 < d) (hlow : 2 * (m * d) ≤ 2 * n + step * d)
    (hhigh : 2 * n ≤ 2 * (m * d) + step * d) : |(m : ℚ) - n / d| ≤ step / 2 := by
  have hd' : (0 : ℚ) < d := by exact_mod_cast hd
  have hlow' : 2 * ((m : ℚ) * d) ≤ 2 * n + step * d := by exact_mod_cast hlow
  have hhigh' : 2 * (n : ℚ) ≤ 2 * (m * d) + step * d := by exact_mod_cast hhigh
  have hsplit : (n : ℚ) = n / d * d := (div_mul_cancel₀ _ hd'.ne').symm
  rw [hsplit] at hlow' hhigh'
  rw [abs_le]
  constructor
  · nlinarith
  · nlinarith

/-- **What is left of a rounded number of units.**  It is missed by half a unit or by a small part
of itself, and a whole number that is small enough is not missed at all. -/
structure IsRounded (exact : ℚ) (rounded : ℕ) : Prop where
  near : |(rounded : ℚ) - exact| ≤ max (1 / 2) (exact / 16777216)
  whole : ∀ k : ℕ, k < 2 ^ 24 → exact = k → rounded = k

/-- **Rounding misses by half a step**, and a step is small against the number. -/
theorem isRounded_nearestCode (n : ℕ) {d : ℕ} (hd : 0 < d) :
    IsRounded ((n : ℚ) / d) (units (nearestCode 24 n d)) where
  near := by
    have hd' : (0 : ℚ) < d := by exact_mod_cast hd
    obtain ⟨hlow, hhigh⟩ := two_mul_magnitude_nearestCode (p := 24) (by decide) hd (n := n)
    obtain ⟨hstep, -⟩ := (gridShift_eq_iff (p := 24) (by decide) hd (n := n)).1 rfl
    change 2 * (units (nearestCode 24 n d) * d) ≤ _ at hlow
    change _ ≤ 2 * (units (nearestCode 24 n d) * d) + _ at hhigh
    have hstep' : ((2 ^ gridShift 24 n d : ℕ) : ℚ) ≤ max 1 ((n : ℚ) / d / 8388608) := by
      obtain hzero | hlarge := hstep
      · rw [hzero]
        exact le_max_of_le_left (by norm_num)
      · refine le_max_of_le_right ?_
        rw [le_div_iff₀ (by norm_num), le_div_iff₀ hd']
        have hlarge' : 2 ^ gridShift 24 n d * 8388608 * d ≤ n := by
          refine le_trans (le_of_eq ?_) hlarge
          ring
        exact_mod_cast hlarge'
    have hmiss := abs_sub_div_le hd hlow hhigh
    refine hmiss.trans ?_
    rcases le_total 1 ((n : ℚ) / d / 8388608) with hmore | hless
    · rw [max_eq_right hmore] at hstep'
      refine le_max_of_le_right ?_
      linarith
    · rw [max_eq_left hless] at hstep'
      refine le_max_of_le_left ?_
      linarith
  whole := by
    intro k hk hexact
    have hd' : (d : ℚ) ≠ 0 := by exact_mod_cast hd.ne'
    have hn : n = k * d := by
      rw [div_eq_iff hd'] at hexact
      exact_mod_cast hexact
    have hcode : nearestCode 24 n d = nearestCode 24 (k * 2 ^ 0) 1 := by
      refine nearestCode_congr (by decide) hd Nat.one_pos ?_
      rw [hn]
      ring
    rw [hcode]
    exact (magnitude_nearestCode_mul_pow (by decide) hk 0).trans (Nat.mul_one k)

/-- What is left of a whole number of units. -/
lemma isRounded_nearestCode_one (n : ℕ) : IsRounded (n : ℚ) (units (nearestCode 24 n 1)) := by
  have h := isRounded_nearestCode n Nat.one_pos
  rwa [Nat.cast_one, div_one] at h

/-- A whole number of units is missed by a small part of itself at most. -/
lemma IsRounded.near_whole {m k : ℕ} (h : IsRounded k m) : |(m : ℚ) - k| ≤ k / 16777216 := by
  by_cases hsmall : k < 2 ^ 24
  · rw [h.whole k hsmall rfl, sub_self, abs_zero]
    positivity
  · have hlarge : (16777216 : ℚ) ≤ k := by exact_mod_cast Nat.not_lt.1 hsmall
    refine h.near.trans (max_le ?_ le_rfl)
    linarith

/-- The nearest integer is no further than a half. -/
lemma abs_nearestWhole_sub_le (b : ℕ) :
    |(nearestWhole b : ℚ) - b / (unitsPerOne : ℕ)| ≤ 1 / 2 := by
  have hpos : 0 < unitsPerOne := by decide
  have heven : unitsPerOne = 2 * (unitsPerOne / 2) := by decide
  have hsplit := Nat.div_add_mod' (b + unitsPerOne / 2) unitsPerOne
  have hrest := Nat.mod_lt (b + unitsPerOne / 2) hpos
  change nearestWhole b * unitsPerOne + _ = _ at hsplit
  generalize unitsPerOne = one at *
  generalize nearestWhole b = n at *
  have hlow : 2 * (n * one) ≤ 2 * b + 1 * one := by omega
  have hhigh : 2 * b ≤ 2 * (n * one) + 1 * one := by omega
  have hmiss := abs_sub_div_le hpos hlow hhigh
  rwa [Nat.cast_one] at hmiss

/-! ## Writing a speed -/

/-- **How a speed is written**, everything being measured in units: `x` is the speed, `r` the speed
of one hertz, and `u` the number of steps in one hertz; `a` and `b` are what is left of the product
and of the quotient. -/
structure IsWritten (x u r a b : ℕ) : Prop where
  pos : 0 < r
  product : IsRounded ((x * u : ℕ) : ℚ) a
  quotient : IsRounded ((a : ℚ) / r * (unitsPerOne : ℕ)) b

namespace IsWritten

variable {x u r a b : ℕ}

lemma near_quotient (h : IsWritten x u r a b) :
    |(b : ℚ) / (unitsPerOne : ℕ) - a / r| ≤ max 1 ((a : ℚ) / r) / 16777216 := by
  have hone : (16777216 : ℚ) ≤ (unitsPerOne : ℕ) := by
    have hlarge : 16777216 ≤ unitsPerOne := by decide
    exact_mod_cast hlarge
  have hnear := h.quotient.near
  generalize ((unitsPerOne : ℕ) : ℚ) = one at *
  generalize (a : ℚ) / r = t at *
  have hpos : 0 < one := by linarith
  have hsplit : (b : ℚ) - t * one = (b / one - t) * one := by field_simp
  rw [hsplit, abs_mul, abs_of_pos hpos] at hnear
  have hmax : max (1 / 2) (t * one / 16777216) ≤ max 1 t / 16777216 * one := by
    refine max_le ?_ ?_
    · have hleast : (1 : ℚ) ≤ max 1 t := le_max_left _ _
      nlinarith
    · have hleast : t ≤ max 1 t := le_max_right _ _
      nlinarith
  exact le_of_mul_le_mul_right (hnear.trans hmax) hpos

/-- The share of the product in the quotient. -/
lemma near_product (h : IsWritten x u r a b) :
    |(a : ℚ) / r - (x * u : ℕ) / r| ≤ ((x * u : ℕ) : ℚ) / r / 16777216 := by
  have hr : (0 : ℚ) < r := by exact_mod_cast h.pos
  have hnear := h.product.near_whole
  rw [← sub_div, abs_div, abs_of_pos hr, div_right_comm]
  exact div_le_div_of_nonneg_right hnear hr.le

/-- A quotient that is not past the last code is near its code. -/
lemma near_count (h : IsWritten x u r a b) (hcount : nearestWhole b ≤ 0xFFFF) :
    |(nearestWhole b : ℚ) - a / r| ≤ 1 / 2 + 1 / 256 := by
  have hquotient := abs_le.1 h.near_quotient
  have hwhole := abs_le.1 (abs_nearestWhole_sub_le b)
  have hcount' : (nearestWhole b : ℚ) ≤ 65535 := by exact_mod_cast hcount
  generalize (a : ℚ) / r = t at *
  generalize (b : ℚ) / (unitsPerOne : ℕ) = s at *
  have hmax : max 1 t ≤ 65536 := by
    refine max_le (by norm_num) ?_
    rcases le_total 1 t with hmore | hless
    · rw [max_eq_right hmore] at hquotient
      linarith
    · linarith
  rw [abs_le]
  constructor
  · linarith
  · linarith

/-- **The code of a speed is near the speed**, measured in steps. -/
lemma near (h : IsWritten x u r a b) (hcount : nearestWhole b ≤ 0xFFFF) :
    |(nearestWhole b : ℚ) - (x * u : ℕ) / r| ≤ 1 / 2 + 1 / 127 := by
  have hnear := abs_le.1 (h.near_count hcount)
  have hproduct := abs_le.1 h.near_product
  have hcount' : (nearestWhole b : ℚ) ≤ 65535 := by exact_mod_cast hcount
  generalize (a : ℚ) / r = t at *
  generalize ((x * u : ℕ) : ℚ) / r = s at *
  rw [abs_le]
  constructor
  · linarith
  · linarith

/-- It is nearer if the product is not rounded. -/
lemma near_of_lt (h : IsWritten x u r a b) (hcount : nearestWhole b ≤ 0xFFFF)
    (hsmall : x * u < 2 ^ 24) :
    |(nearestWhole b : ℚ) - (x * u : ℕ) / r| ≤ 1 / 2 + 1 / 256 := by
  have hexact : a = x * u := h.product.whole _ hsmall rfl
  rw [← hexact]
  exact h.near_count hcount

/-- A quotient past the last code is that of a speed past the last code. -/
lemma le_of_lt (h : IsWritten x u r a b) (hcount : 0xFFFF < nearestWhole b) :
    (65535 : ℚ) ≤ (x * u : ℕ) / r := by
  have hquotient := abs_le.1 h.near_quotient
  have hproduct := abs_le.1 h.near_product
  have hwhole := abs_le.1 (abs_nearestWhole_sub_le b)
  have hcount' : (65536 : ℚ) ≤ nearestWhole b := by exact_mod_cast hcount
  generalize (a : ℚ) / r = t at *
  generalize ((x * u : ℕ) : ℚ) / r = s at *
  generalize (b : ℚ) / (unitsPerOne : ℕ) = v at *
  rcases le_total 1 t with hmore | hless
  · rw [max_eq_right hmore] at hquotient
    linarith
  · rw [max_eq_left hless] at hquotient
    linarith

end IsWritten

/-! ## Reading a speed -/

/-- **How a code is read**: `c` is the code, `d` and `e` are what is left of the product and of the
quotient. -/
structure IsRead (c r u d e : ℕ) : Prop where
  pos : 0 < u
  product : IsRounded ((c * r : ℕ) : ℚ) d
  quotient : IsRounded ((d : ℚ) / u) e

namespace IsRead

variable {c r u d e : ℕ}

/-- **The speed of a code is near the code**, by a part of a step. -/
lemma near (h : IsRead c r u d e) (hc : c ≤ 0xFFFF) :
    |(e : ℚ) - c * (r / u)| ≤ 1 / 2 + r / u / 128 := by
  have hu : (0 : ℚ) < u := by exact_mod_cast h.pos
  have hc' : (c : ℚ) ≤ 65535 := by exact_mod_cast hc
  have hstep : (0 : ℚ) ≤ r / u := div_nonneg (Nat.cast_nonneg r) hu.le
  have hproduct : |(d : ℚ) / u - c * (r / u)| ≤ c * (r / u) / 16777216 := by
    have hnear := h.product.near_whole
    push_cast at hnear
    rw [← mul_div_assoc, ← sub_div, abs_div, abs_of_pos hu, div_right_comm]
    exact div_le_div_of_nonneg_right hnear hu.le
  have hspeed : (c : ℚ) * (r / u) ≤ 65535 * (r / u) := mul_le_mul_of_nonneg_right hc' hstep
  have hquotient := h.quotient.near
  generalize (d : ℚ) / u = v at *
  generalize (c : ℚ) * (r / u) = t at *
  generalize (r : ℚ) / u = step at *
  have hproduct' := abs_le.1 hproduct
  have hmax : max (1 / 2) (v / 16777216) ≤ 1 / 2 + step / 256 := by
    refine max_le ?_ ?_
    · linarith
    · linarith
  have hquotient' := abs_le.1 (hquotient.trans hmax)
  rw [abs_le]
  constructor
  · linarith
  · linarith

/-- Where a step is less than a unit, the product is not rounded. -/
lemma near_of_lt (h : IsRead c r u d e) (hc : c ≤ 0xFFFF) (hr : r < u) (hu : u ≤ 100) :
    |(e : ℚ) - c * (r / u)| ≤ 1 / 2 := by
  have hu' : (0 : ℚ) < u := by exact_mod_cast h.pos
  have hsmall : c * r ≤ 0xFFFF * 99 := Nat.mul_le_mul hc (by omega)
  have hexact : d = c * r := h.product.whole _ (hsmall.trans_lt (by decide)) rfl
  have hquotient := h.quotient.near
  have hspeed : (c : ℚ) * (r / u) ≤ 65535 := by
    have hc' : (c : ℚ) ≤ 65535 := by exact_mod_cast hc
    have hstep : (r : ℚ) / u ≤ 1 := by
      rw [div_le_one hu']
      exact_mod_cast hr.le
    have hstep' : (0 : ℚ) ≤ r / u := div_nonneg (Nat.cast_nonneg r) hu'.le
    nlinarith
  rw [hexact, Nat.cast_mul, mul_div_assoc] at hquotient
  refine hquotient.trans (max_le le_rfl ?_)
  linarith

end IsRead

/-! ## There and back -/

/-- A step that is at least a unit does not vanish. -/
lemma IsRounded.one_le {step : ℚ} {q : ℕ} (h : IsRounded step q) (hstep : 1 ≤ step) : 1 ≤ q := by
  have hnear := abs_le.1 h.near
  have hpos : (0 : ℚ) < q := by
    rcases le_total (1 / 2) (step / 16777216) with hmore | hless
    · rw [max_eq_right hmore] at hnear
      linarith
    · rw [max_eq_left hless] at hnear
      linarith
  exact_mod_cast hpos

/-- A step is not rounded down by much. -/
lemma IsRounded.le {step : ℚ} {q : ℕ} (h : IsRounded step q) (hstep : 0 ≤ step) :
    step - step / 16777216 - 1 / 2 ≤ q := by
  have hnear := abs_le.1 h.near
  have hmax : max (1 / 2) (step / 16777216) ≤ 1 / 2 + step / 16777216 := by
    refine max_le ?_ ?_
    · linarith
    · linarith
  linarith

/-- **How a code stands to a speed**: it is near the speed, or it is the last code and the speed
lies between what the last code should stand for and what it is read as. -/
inductive Suits (x u r c e : ℕ) : Prop where
  | near (hcode : c ≤ 0xFFFF) (hnear : |(c : ℚ) - (x * u : ℕ) / r| ≤ 1 / 2 + 1 / 127)
      (hnear' : x * u < 2 ^ 24 → |(c : ℚ) - (x * u : ℕ) / r| ≤ 1 / 2 + 1 / 256)
  | last (hcode : c = 0xFFFF) (hlow : (65535 : ℚ) ≤ (x * u : ℕ) / r) (hhigh : x ≤ e)

section

variable {x u r c d e q : ℕ}

lemma Suits.le (h : Suits x u r c e) : c ≤ 0xFFFF := by
  cases h with
  | near hcode => exact hcode
  | last hcode => exact hcode.le

/-- Steps that are at least a unit: what is read misses the speed by about half a step. -/
lemma abs_sub_le_of_suits (hr : 0 < r) (hread : IsRead c r u d e) (h : Suits x u r c e) :
    |(e : ℚ) - x| ≤ 1 / 2 + (1 / 2 + 1 / 63) * (r / u) := by
  have hr' : (0 : ℚ) < r := by exact_mod_cast hr
  have hu' : (0 : ℚ) < u := by exact_mod_cast hread.pos
  have hstep : (0 : ℚ) < r / u := div_pos hr' hu'
  have hspeed : ((x * u : ℕ) : ℚ) / r * (r / u) = x := by
    push_cast
    field_simp
  have hnear := abs_le.1 (hread.near h.le)
  rw [abs_le]
  cases h with
  | near hcode hmiss =>
      have hmiss' := abs_le.1 hmiss
      generalize ((x * u : ℕ) : ℚ) / r = t at *
      generalize (r : ℚ) / u = step at *
      constructor
      · nlinarith
      · nlinarith
  | last hcode hlow hhigh =>
      have hhigh' : (x : ℚ) ≤ e := by exact_mod_cast hhigh
      have hcode' : (c : ℚ) = 65535 := by exact_mod_cast hcode
      rw [hcode'] at hnear
      generalize ((x * u : ℕ) : ℚ) / r = t at *
      generalize (r : ℚ) / u = step at *
      constructor
      · nlinarith
      · nlinarith

/-- Steps that are less than a unit: what is read is the speed. -/
lemma eq_of_suits (hr : 0 < r) (hless : r < u) (hu : u ≤ 100) (hread : IsRead c r u d e)
    (h : Suits x u r c e) : e = x := by
  have hr' : (0 : ℚ) < r := by exact_mod_cast hr
  have hu' : (0 : ℚ) < u := by exact_mod_cast hread.pos
  have hstep : (0 : ℚ) < r / u := div_pos hr' hu'
  have hstep' : (r : ℚ) / u ≤ 99 / 100 := by
    rw [div_le_div_iff₀ hu' (by norm_num)]
    exact_mod_cast (by omega : r * 100 ≤ 99 * u)
  have hspeed : ((x * u : ℕ) : ℚ) / r * (r / u) = x := by
    push_cast
    field_simp
  have hnear := abs_le.1 (hread.near_of_lt h.le hless hu)
  have hmiss : |(e : ℚ) - x| < 1 := by
    rw [abs_lt]
    cases h with
    | near hcode hmiss hmiss' =>
        have hsmall : x * u < 2 ^ 24 := by
          have hspeed' : ((x * u : ℕ) : ℚ) / r ≤ 65536 := by
            have hcode' : (c : ℚ) ≤ 65535 := by exact_mod_cast hcode
            have hlow := (abs_le.1 hmiss).1
            linarith
          rw [div_le_iff₀ hr'] at hspeed'
          have hproduct : x * u ≤ 65536 * r := by exact_mod_cast hspeed'
          exact hproduct.trans_lt (by omega)
        have hmiss := abs_le.1 (hmiss' hsmall)
        generalize ((x * u : ℕ) : ℚ) / r = t at *
        generalize (r : ℚ) / u = step at *
        constructor
        · nlinarith
        · nlinarith
    | last hcode hlow hhigh =>
        have hhigh' : (x : ℚ) ≤ e := by exact_mod_cast hhigh
        have hcode' : (c : ℚ) = 65535 := by exact_mod_cast hcode
        rw [hcode'] at hnear
        generalize ((x * u : ℕ) : ℚ) / r = t at *
        generalize (r : ℚ) / u = step at *
        constructor
        · linarith
        · nlinarith
  have hmiss' : |(e : ℤ) - x| < 1 := by exact_mod_cast hmiss
  have hzero := Int.abs_lt_one_iff.1 hmiss'
  omega

/-- **There and back is no further than a step.** -/
theorem abs_sub_le_step (hr : 0 < r) (hu : u ≤ 100) (hread : IsRead c r u d e)
    (h : Suits x u r c e) (hstep : IsRounded ((r : ℚ) / u) q) : |(e : ℚ) - x| ≤ q := by
  have hu' : (0 : ℚ) < u := by exact_mod_cast hread.pos
  rcases Nat.lt_or_ge r u with hless | hmore
  · rw [eq_of_suits hr hless hu hread h, sub_self, abs_zero]
    exact Nat.cast_nonneg q
  have hone : (1 : ℚ) ≤ r / u := by
    rw [le_div_iff₀ hu', one_mul]
    exact_mod_cast hmore
  have hnear := abs_sub_le_of_suits hr hread h
  rcases le_total ((r : ℚ) / u) (5 / 2) with hfew | hmany
  · -- less than two units, so one at most, and so much is left of the step
    have hmiss : |(e : ℚ) - x| < 2 := by linarith
    have hmiss' : |(e : ℤ) - x| < 2 := by exact_mod_cast hmiss
    have hpos : 1 ≤ q := hstep.one_le hone
    have hwhole : |(e : ℤ) - x| ≤ q := by omega
    exact_mod_cast hwhole
  · have hlow := hstep.le (by linarith)
    linarith

end

end Binary32

end SpindleDrive
