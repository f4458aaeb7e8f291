import Mathlib.Order.Monotone.Basic
import Mathlib.Tactic.Lemma
import SpindleDrive.Number.Rounding

/-!
# What it means to be nearest

A code is found by measuring a quotient in some step and rounding there.  This file says the same
without steps: the code of a quotient is the one whose neighbours lie on both sides, halfway points
going to even codes.  So rounding respects the order, leaves alone what is on the grid, and misses
by half a step at most.

* `divideEven_eq_iff` — the nearest integer, by inequalities alone.
* `gridShift` — the step that a quotient is measured in.
* `exists_grid` — every code is a number of steps, `magnitude_grid` — of which it stands for.
* `magnitude_strictMono` — codes are ordered like what they stand for.
* **`nearestCode_eq_of_between`** — whatever lies between the halfway points around a code has that
  code.
* `nearestCode_mono` — rounding respects the order.
* `two_mul_magnitude_nearestCode` — it misses by half a step at most.
* `magnitude_nearestCode_mul_pow` — what is on the grid stays, so that nothing is rounded past it.
-/

namespace SpindleDrive

/-! ## Integers -/

/-- **The nearest integer**: no further than a half, and nearer than that if it is odd. -/
lemma divideEven_eq_iff {n d r : Nat} (hd : 0 < d) :
    divideEven n d = r ↔
      (2 * (r * d) ≤ 2 * n + d ∧ 2 * n ≤ 2 * (r * d) + d) ∧
        (r % 2 = 1 → 2 * (r * d) < 2 * n + d ∧ 2 * n < 2 * (r * d) + d) := by
  have hn : n / d * d + n % d = n := Nat.div_add_mod' n d
  have hrem : n % d < d := Nat.mod_lt n hd
  have hnext : (n / d + 1) * d = n / d * d + d := Nat.succ_mul ..
  constructor
  · intro h
    rw [divideEven] at h
    split at h
    · subst h
      omega
    split at h
    · subst h
      omega
    · have hhalf : d = 2 * (n % d) := by omega
      obtain heven | hodd := Nat.mod_two_eq_zero_or_one (n / d)
      · rw [heven, Nat.add_zero] at h
        subst h
        omega
      · rw [hodd] at h
        subst h
        omega
  · rintro ⟨⟨hlow, hhigh⟩, hodd⟩
    -- the integer lies within a half of the quotient, so it is the floor or the next one
    have hfloor : n / d ≤ r := by
      by_contra hless
      have hstep : (r + 1) * d ≤ n / d * d := Nat.mul_le_mul_right d (by omega)
      rw [Nat.succ_mul] at hstep
      omega
    have hceil : r ≤ n / d + 1 := by
      by_contra hmore
      have hstep : (n / d + 2) * d ≤ r * d := Nat.mul_le_mul_right d (by omega)
      rw [Nat.succ_mul, Nat.succ_mul] at hstep
      omega
    obtain rfl | rfl : r = n / d ∨ r = n / d + 1 := by omega
    · rw [divideEven]
      split
      · rfl
      split
      · omega
      · have heven : n / d % 2 = 0 := by
          by_contra hne
          have hstrict := hodd (by omega)
          omega
        omega
    · rw [divideEven]
      split
      · omega
      split
      · rfl
      · have heven : (n / d + 1) % 2 = 0 := by
          by_contra hne
          have hstrict := hodd (by omega)
          omega
        omega

/-- The nearest integer grows with the quotient. -/
lemma divideEven_mono {n d n' d' : Nat} (hd : 0 < d) (hd' : 0 < d') (h : n * d' ≤ n' * d) :
    divideEven n d ≤ divideEven n' d' := by
  obtain ⟨⟨hlow, -⟩, hodd⟩ := (divideEven_eq_iff hd).1 (Eq.refl (divideEven n d))
  obtain ⟨⟨-, hhigh⟩, hodd'⟩ := (divideEven_eq_iff hd').1 (Eq.refl (divideEven n' d'))
  generalize divideEven n d = r at *
  generalize divideEven n' d' = r' at *
  by_contra hless
  -- both quotients would be halfway between two integers, of which neither is even
  have hstep : (r' + 1) * (d * d') ≤ r * (d * d') := Nat.mul_le_mul_right _ (by omega)
  have hlow' := Nat.mul_le_mul_right d' hlow
  have hhigh' := Nat.mul_le_mul_right d hhigh
  have hodd₁ (hr : r % 2 = 1) := Nat.mul_lt_mul_of_pos_right (hodd hr).1 hd'
  have hodd₂ (hr : r' % 2 = 1) := Nat.mul_lt_mul_of_pos_right (hodd' hr).2 hd
  have hequal : r = r' + 1 := by
    by_contra hne
    have hmore : (r' + 2) * (d * d') ≤ r * (d * d') := Nat.mul_le_mul_right _ (by omega)
    have hpos : 0 < d * d' := Nat.mul_pos hd hd'
    grind
  grind

/-! ## Steps -/

variable {p : Nat}

/-- The step, as a power of two, in which a quotient of units is measured. -/
def gridShift (p n d : Nat) : Nat :=
  if n / d < 2 ^ p then 0 else Nat.log2 (n / d) - (p - 1)

lemma nearestCode_eq_gridShift (p n d : Nat) :
    nearestCode p n d =
      gridShift p n d * 2 ^ (p - 1) + divideEven n (d * 2 ^ gridShift p n d) := rfl

lemma two_pow_eq (hp : 0 < p) : 2 ^ p = 2 * 2 ^ (p - 1) := by
  rw [← Nat.pow_succ', Nat.succ_eq_add_one, Nat.sub_add_cancel hp]

/-- **The step of a quotient** is the one that leaves `p` bits, unless these are fewer anyway. -/
lemma gridShift_eq_iff (hp : 0 < p) {n d s : Nat} (hd : 0 < d) :
    gridShift p n d = s ↔
      (s = 0 ∨ 2 ^ (p - 1) * (d * 2 ^ s) ≤ n) ∧ n < 2 ^ p * (d * 2 ^ s) := by
  have hlow (t : Nat) : 2 ^ (p - 1) * (d * 2 ^ t) ≤ n ↔ 2 ^ (p - 1 + t) ≤ n / d := by
    rw [Nat.le_div_iff_mul_le hd, Nat.pow_add, Nat.mul_assoc, Nat.mul_comm d]
  have hhigh (t : Nat) : n < 2 ^ p * (d * 2 ^ t) ↔ n / d < 2 ^ (p + t) := by
    rw [Nat.div_lt_iff_lt_mul hd, Nat.pow_add, Nat.mul_assoc, Nat.mul_comm d]
  rw [hlow, hhigh, gridShift]
  split
  · rename_i hsmall
    constructor
    · rintro rfl
      exact ⟨.inl rfl, hsmall⟩
    · rintro ⟨rfl | hmany, -⟩
      · rfl
      · by_contra hne
        have hpow : 2 ^ p ≤ 2 ^ (p - 1 + s) := Nat.pow_le_pow_right (by decide) (by omega)
        omega
  · rename_i hlarge
    have hne : n / d ≠ 0 := by
      have hpos := Nat.two_pow_pos p
      omega
    have hlog : p ≤ (n / d).log2 := (Nat.le_log2 hne).2 (Nat.not_lt.1 hlarge)
    constructor
    · rintro rfl
      refine ⟨.inr ((Nat.le_log2 hne).1 (by omega)), (Nat.log2_lt hne).1 (by omega)⟩
    · rintro ⟨rfl | hmany, hfew⟩
      · exact absurd hfew hlarge
      · have hmany := (Nat.le_log2 hne).2 hmany
        have hfew := (Nat.log2_lt hne).2 hfew
        omega

/-- A number of steps that a code can be. -/
structure IsGrid (p s r : Nat) : Prop where
  enough : s = 0 ∨ 2 ^ (p - 1) ≤ r
  fits : r ≤ 2 * 2 ^ (p - 1)

/-- **What a code stands for**, by its steps. -/
lemma magnitude_grid {s r : Nat} (h : IsGrid p s r) :
    magnitude p (s * 2 ^ (p - 1) + r) = r * 2 ^ s := by
  obtain ⟨henough, hfits⟩ := h
  have hblock : 0 < 2 ^ (p - 1) := Nat.two_pow_pos _
  by_cases hsmall : s * 2 ^ (p - 1) + r < 2 ^ (p - 1)
  · obtain rfl : s = 0 := by
      by_contra hs
      have hmany := Nat.mul_le_mul_right (2 ^ (p - 1)) (Nat.one_le_iff_ne_zero.2 hs)
      omega
    rw [magnitude, if_pos hsmall]
    simp
  · have hmany : 2 ^ (p - 1) ≤ r := by
      obtain rfl | hmany := henough
      · simpa using hsmall
      · exact hmany
    rw [magnitude, if_neg hsmall]
    obtain hless | hequal := Nat.lt_or_eq_of_le hfits
    · obtain ⟨t, rfl⟩ := Nat.exists_eq_add_of_le hmany
      have hcode : s * 2 ^ (p - 1) + (2 ^ (p - 1) + t) = 2 ^ (p - 1) * (s + 1) + t := by
        rw [Nat.mul_comm _ (s + 1), Nat.succ_mul]
        omega
      have ht : t < 2 ^ (p - 1) := by omega
      rw [hcode, Nat.mul_add_mod, Nat.mod_eq_of_lt ht, Nat.mul_add_div hblock,
        Nat.div_eq_of_lt ht]
      simp
    · -- the last step of a block is the first of the next
      have hcode : s * 2 ^ (p - 1) + r = 2 ^ (p - 1) * (s + 2) := by
        rw [hequal, Nat.mul_comm _ (s + 2), Nat.add_mul]
      rw [hcode, Nat.mul_mod_right, Nat.mul_div_cancel_left _ hblock, hequal, Nat.add_zero]
      rw [show s + 2 - 1 = s + 1 from rfl, Nat.pow_succ]
      grind

/-- **Every code is a number of steps**, not all that there are before the next block. -/
lemma exists_grid (p code : Nat) :
    ∃ s r, code = s * 2 ^ (p - 1) + r ∧ (s = 0 ∨ 2 ^ (p - 1) ≤ r) ∧ r < 2 * 2 ^ (p - 1) := by
  have hblock : 0 < 2 ^ (p - 1) := Nat.two_pow_pos _
  have hcode : code / 2 ^ (p - 1) * 2 ^ (p - 1) + code % 2 ^ (p - 1) = code :=
    Nat.div_add_mod' code _
  have hrest : code % 2 ^ (p - 1) < 2 ^ (p - 1) := Nat.mod_lt _ hblock
  cases hs : code / 2 ^ (p - 1) with
  | zero =>
      rw [hs] at hcode
      exact ⟨0, code, by omega, .inl rfl, by omega⟩
  | succ s =>
      rw [hs, Nat.succ_mul] at hcode
      exact ⟨s, 2 ^ (p - 1) + code % 2 ^ (p - 1), by omega, .inr (by omega), by omega⟩

lemma magnitude_succ {s r : Nat} (henough : s = 0 ∨ 2 ^ (p - 1) ≤ r) (hless : r < 2 * 2 ^ (p - 1)) :
    magnitude p (s * 2 ^ (p - 1) + r) = r * 2 ^ s ∧
      magnitude p (s * 2 ^ (p - 1) + r + 1) = r * 2 ^ s + 2 ^ s := by
  refine ⟨magnitude_grid ⟨henough, hless.le⟩, ?_⟩
  rw [Nat.add_assoc, magnitude_grid ⟨henough.imp_right fun h => by omega, hless⟩, Nat.succ_mul]

lemma magnitude_strictMono (p : Nat) : StrictMono (magnitude p) := by
  refine strictMono_nat_of_lt_succ fun code => ?_
  obtain ⟨s, r, rfl, henough, hless⟩ := exists_grid p code
  obtain ⟨hthis, hnext⟩ := magnitude_succ henough hless
  rw [hthis, hnext]
  exact Nat.lt_add_of_pos_right (Nat.two_pow_pos s)

/-! ## Codes -/

/-- The code of a quotient is a number of its steps. -/
lemma isGrid_nearestCode (hp : 0 < p) {n d : Nat} (hd : 0 < d) :
    IsGrid p (gridShift p n d) (divideEven n (d * 2 ^ gridShift p n d)) := by
  obtain ⟨hlow, hhigh⟩ := (gridShift_eq_iff hp hd).1 (Eq.refl (gridShift p n d))
  generalize gridShift p n d = s at *
  have hd' : 0 < d * 2 ^ s := Nat.mul_pos hd (Nat.two_pow_pos s)
  have hexact (k : Nat) : divideEven (k * (d * 2 ^ s)) (d * 2 ^ s) = k :=
    divideEven_mul_right k _ hd'
  refine ⟨hlow.imp_right fun hlow => ?_, ?_⟩
  · rw [← hexact (2 ^ (p - 1))]
    exact divideEven_mono hd' hd' (Nat.mul_le_mul_right _ hlow)
  · rw [← two_pow_eq hp, ← hexact (2 ^ p)]
    exact divideEven_mono hd' hd' (Nat.mul_le_mul_right _ hhigh.le)

lemma magnitude_nearestCode (hp : 0 < p) {n d : Nat} (hd : 0 < d) :
    magnitude p (nearestCode p n d) =
      divideEven n (d * 2 ^ gridShift p n d) * 2 ^ gridShift p n d := by
  rw [nearestCode_eq_gridShift]
  exact magnitude_grid (isGrid_nearestCode hp hd)

/-- **Rounding misses by half a step at most.** -/
lemma two_mul_magnitude_nearestCode (hp : 0 < p) {n d : Nat} (hd : 0 < d) :
    2 * (magnitude p (nearestCode p n d) * d) ≤ 2 * n + 2 ^ gridShift p n d * d ∧
      2 * n ≤ 2 * (magnitude p (nearestCode p n d) * d) + 2 ^ gridShift p n d * d := by
  have hd' : 0 < d * 2 ^ gridShift p n d := Nat.mul_pos hd (Nat.two_pow_pos _)
  obtain ⟨⟨hlow, hhigh⟩, -⟩ :=
    (divideEven_eq_iff hd').1 (Eq.refl (divideEven n (d * 2 ^ gridShift p n d)))
  rw [magnitude_nearestCode hp hd]
  grind

/-- **Rounding respects the order.** -/
theorem nearestCode_mono (hp : 0 < p) {n d n' d' : Nat} (hd : 0 < d) (hd' : 0 < d')
    (h : n * d' ≤ n' * d) : nearestCode p n d ≤ nearestCode p n' d' := by
  obtain ⟨hlow, hhigh⟩ := (gridShift_eq_iff hp hd).1 (Eq.refl (gridShift p n d))
  obtain ⟨hlow', hhigh'⟩ := (gridShift_eq_iff hp hd').1 (Eq.refl (gridShift p n' d'))
  have hgrid := isGrid_nearestCode hp hd (n := n)
  have hgrid' := isGrid_nearestCode hp hd' (n := n')
  rw [nearestCode_eq_gridShift, nearestCode_eq_gridShift]
  generalize gridShift p n d = s at *
  generalize gridShift p n' d' = s' at *
  obtain hless | rfl | hmore := Nat.lt_trichotomy s s'
  · -- the codes lie in different blocks
    have hblock : (s + 1) * 2 ^ (p - 1) ≤ s' * 2 ^ (p - 1) := Nat.mul_le_mul_right _ hless
    have henough := hgrid'.enough
    have hfits := hgrid.fits
    rw [Nat.succ_mul] at hblock
    omega
  · refine Nat.add_le_add_left (divideEven_mono (Nat.mul_pos hd (Nat.two_pow_pos s))
      (Nat.mul_pos hd' (Nat.two_pow_pos s)) ?_) _
    calc n * (d' * 2 ^ s) = n * d' * 2 ^ s := (Nat.mul_assoc ..).symm
      _ ≤ n' * d * 2 ^ s := Nat.mul_le_mul_right _ h
      _ = n' * (d * 2 ^ s) := Nat.mul_assoc ..
  · -- a larger step is for larger quotients
    exfalso
    obtain rfl | hlow := hlow
    · omega
    have hpow : 2 ^ p * 2 ^ s' ≤ 2 ^ (p - 1) * 2 ^ s := by
      rw [← Nat.pow_add, ← Nat.pow_add]
      exact Nat.pow_le_pow_right (by decide) (by omega)
    have hcross : 2 ^ p * 2 ^ s' * (d * d') ≤ n * d' := calc
      2 ^ p * 2 ^ s' * (d * d') ≤ 2 ^ (p - 1) * 2 ^ s * (d * d') := Nat.mul_le_mul_right _ hpow
      _ = 2 ^ (p - 1) * (d * 2 ^ s) * d' := by grind
      _ ≤ n * d' := Nat.mul_le_mul_right _ hlow
    have hcross' : n' * d < 2 ^ p * 2 ^ s' * (d * d') := calc
      n' * d < 2 ^ p * (d' * 2 ^ s') * d := Nat.mul_lt_mul_of_pos_right hhigh' hd
      _ = 2 ^ p * 2 ^ s' * (d * d') := by grind
    omega

/-- The code of a quotient does not hang on how the quotient is written. -/
lemma nearestCode_congr (hp : 0 < p) {n d n' d' : Nat} (hd : 0 < d) (hd' : 0 < d')
    (h : n * d' = n' * d) : nearestCode p n d = nearestCode p n' d' :=
  Nat.le_antisymm (nearestCode_mono hp hd hd' h.le) (nearestCode_mono hp hd' hd h.ge)

/-- A quotient that is nearest to a number of its steps. -/
lemma nearestCode_of_steps (hp : 0 < p) {n d s r : Nat} (hd : 0 < d)
    (enough : s = 0 ∨ 2 ^ (p - 1) * (d * 2 ^ s) ≤ n) (fits : n < 2 * 2 ^ (p - 1) * (d * 2 ^ s))
    (near : divideEven n (d * 2 ^ s) = r) : nearestCode p n d = s * 2 ^ (p - 1) + r := by
  have hshift : gridShift p n d = s := (gridShift_eq_iff hp hd).2 ⟨enough, by rwa [two_pow_eq hp]⟩
  rw [nearestCode_eq_gridShift, hshift, near]

/-- A quotient that is nearest to a number of steps whose neighbours are one step away. -/
lemma nearestCode_of_inner (hp : 1 < p) {n d s r : Nat} (hd : 0 < d)
    (enough : s = 0 ∨ 2 ^ (p - 1) ≤ r) (hless : r + 1 < 2 * 2 ^ (p - 1))
    (low : 2 * (r * (d * 2 ^ s)) + d * 2 ^ s ≤ 2 * n)
    (high : 2 * n ≤ 2 * (r * (d * 2 ^ s)) + 3 * (d * 2 ^ s))
    (odd : (r + 1) % 2 = 1 → 2 * (r * (d * 2 ^ s)) + d * 2 ^ s < 2 * n ∧
      2 * n < 2 * (r * (d * 2 ^ s)) + 3 * (d * 2 ^ s)) :
    nearestCode p n d = s * 2 ^ (p - 1) + (r + 1) := by
  have hd' : 0 < d * 2 ^ s := Nat.mul_pos hd (Nat.two_pow_pos s)
  have hmany : s = 0 ∨ 2 ^ (p - 1) * (d * 2 ^ s) ≤ r * (d * 2 ^ s) :=
    enough.imp_right fun h => Nat.mul_le_mul_right _ h
  have hfew : (r + 2) * (d * 2 ^ s) ≤ 2 * 2 ^ (p - 1) * (d * 2 ^ s) := Nat.mul_le_mul_right _ hless
  rw [Nat.add_mul] at hfew
  refine nearestCode_of_steps (by omega) hd (by omega) (by omega) ((divideEven_eq_iff hd').2 ?_)
  rw [Nat.add_one_mul r]
  refine ⟨by omega, fun hr => ?_⟩
  have hstrict := odd hr
  omega

/-- A quotient that is nearest to the first code of a block, below which the steps are half as
large. -/
lemma nearestCode_of_first (hp : 1 < p) {n d s r : Nat} (hd : 0 < d)
    (hfull : r + 1 = 2 * 2 ^ (p - 1)) (low : 2 * (r * (d * 2 ^ s)) + d * 2 ^ s ≤ 2 * n)
    (high : 2 * n ≤ 2 * (r * (d * 2 ^ s)) + 4 * (d * 2 ^ s)) :
    nearestCode p n d = s * 2 ^ (p - 1) + (r + 1) := by
  have hp' : 0 < p := by omega
  have hblock : 2 ^ (p - 1) % 2 = 0 := by
    rw [two_pow_eq (show 0 < p - 1 by omega), Nat.mul_mod_right]
  have hd' : 0 < d * 2 ^ s := Nat.mul_pos hd (Nat.two_pow_pos s)
  have hwhole : r * (d * 2 ^ s) + d * 2 ^ s = 2 * (2 ^ (p - 1) * (d * 2 ^ s)) := by
    rw [← Nat.succ_mul, ← Nat.mul_assoc 2, ← hfull]
  have hroom : d * 2 ^ s ≤ 2 ^ (p - 1) * (d * 2 ^ s) := Nat.le_mul_of_pos_left _ (Nat.two_pow_pos _)
  by_cases hbelow : n < 2 * (2 ^ (p - 1) * (d * 2 ^ s))
  · -- measured in the steps below, it is the last of them
    refine nearestCode_of_steps hp' hd (by omega) (by rwa [Nat.mul_assoc]) ?_
    refine (divideEven_eq_iff hd').2 ?_
    rw [Nat.add_one_mul r]
    exact ⟨by omega, by omega⟩
  · have hcode : s * 2 ^ (p - 1) + (r + 1) = (s + 1) * 2 ^ (p - 1) + 2 ^ (p - 1) := by
      rw [Nat.succ_mul]
      omega
    have hdouble : d * 2 ^ (s + 1) = 2 * (d * 2 ^ s) := by rw [Nat.pow_succ', Nat.mul_left_comm]
    have hdoubled : 2 ^ (p - 1) * (2 * (d * 2 ^ s)) = 2 * (2 ^ (p - 1) * (d * 2 ^ s)) :=
      Nat.mul_left_comm ..
    rw [hcode]
    refine nearestCode_of_steps hp' hd (.inr ?_) ?_ ((divideEven_eq_iff ?_).2 ?_)
    · rw [hdouble]
      omega
    · rw [hdouble, Nat.mul_assoc]
      omega
    · rw [hdouble]
      omega
    · rw [hdouble]
      exact ⟨by omega, by omega⟩

/-- **What lies between the halfway points around a code has that code**, the halfway points
themselves if the code is even. -/
theorem nearestCode_eq_of_between (hp : 1 < p) {n d code : Nat} (hd : 0 < d)
    (low : (magnitude p code + magnitude p (code + 1)) * d ≤ 2 * n)
    (high : 2 * n ≤ (magnitude p (code + 1) + magnitude p (code + 2)) * d)
    (odd : (code + 1) % 2 = 1 → (magnitude p code + magnitude p (code + 1)) * d < 2 * n ∧
      2 * n < (magnitude p (code + 1) + magnitude p (code + 2)) * d) :
    nearestCode p n d = code + 1 := by
  have hblock : 2 ^ (p - 1) % 2 = 0 := by
    rw [two_pow_eq (show 0 < p - 1 by omega), Nat.mul_mod_right]
  obtain ⟨s, r, rfl, henough, hless⟩ := exists_grid p code
  obtain ⟨hthis, hnext⟩ := magnitude_succ henough hless
  have hscale : r * 2 ^ s * d = r * (d * 2 ^ s) := by rw [Nat.mul_assoc, Nat.mul_comm d]
  have hstep : 2 ^ s * d = d * 2 ^ s := Nat.mul_comm ..
  have hparity : (s * 2 ^ (p - 1) + r + 1) % 2 = (r + 1) % 2 := by
    have hmul : s * 2 ^ (p - 1) % 2 = 0 := by rw [Nat.mul_mod, hblock, Nat.mul_zero, Nat.zero_mod]
    omega
  rw [hparity] at odd
  rw [hthis, hnext] at low odd
  rw [hnext] at high
  rw [Nat.add_assoc]
  by_cases hlast : r + 1 < 2 * 2 ^ (p - 1)
  · have hafter : magnitude p (s * 2 ^ (p - 1) + r + 2) = r * 2 ^ s + 2 ^ s + 2 ^ s := by
      rw [show s * 2 ^ (p - 1) + r + 2 = s * 2 ^ (p - 1) + (r + 1) + 1 by omega,
        (magnitude_succ (henough.imp_right fun h => by omega) hlast).2, Nat.succ_mul]
    rw [hafter] at high odd
    simp only [Nat.add_mul, hscale, hstep] at low high odd
    refine nearestCode_of_inner hp hd henough hlast (by omega) (by omega) fun hr => ?_
    have hstrict := odd hr
    omega
  · obtain hfull : r + 1 = 2 * 2 ^ (p - 1) := by omega
    have hafter : magnitude p (s * 2 ^ (p - 1) + r + 2) = r * 2 ^ s + 2 ^ s + 2 ^ (s + 1) := by
      have hcode : s * 2 ^ (p - 1) + r + 1 = (s + 1) * 2 ^ (p - 1) + 2 ^ (p - 1) := by
        rw [Nat.succ_mul]
        omega
      rw [show s * 2 ^ (p - 1) + r + 2 = (s + 1) * 2 ^ (p - 1) + 2 ^ (p - 1) + 1 by omega,
        (magnitude_succ (.inr (Nat.le_refl _)) (by omega)).2, ← hnext, hcode,
        (magnitude_succ (.inr (Nat.le_refl _)) (by omega)).1]
    have hdouble : 2 ^ (s + 1) * d = 2 * (d * 2 ^ s) := by
      rw [Nat.pow_succ', Nat.mul_assoc, hstep]
    rw [hafter] at high
    simp only [Nat.add_mul, hscale, hstep, hdouble] at low high
    exact nearestCode_of_first hp hd hfull (by omega) (by omega)

/-! ## What is on the grid -/

/-- What has few enough bits is on the grid. -/
lemma magnitude_nearestCode_mul_pow (hp : 0 < p) {r : Nat} (hr : r < 2 ^ p) (t : Nat) :
    magnitude p (nearestCode p (r * 2 ^ t) 1) = r * 2 ^ t := by
  have hshift : gridShift p (r * 2 ^ t) 1 ≤ t := by
    obtain ⟨hlow, -⟩ := (gridShift_eq_iff hp Nat.one_pos).1 (Eq.refl (gridShift p (r * 2 ^ t) 1))
    obtain hzero | hlow := hlow
    · omega
    by_contra hless
    have hpow : 2 ^ p * 2 ^ t ≤ 2 ^ (p - 1) * (1 * 2 ^ gridShift p (r * 2 ^ t) 1) := by
      rw [Nat.one_mul, ← Nat.pow_add, ← Nat.pow_add]
      exact Nat.pow_le_pow_right (by decide) (by omega)
    have hfew : r * 2 ^ t < 2 ^ p * 2 ^ t := Nat.mul_lt_mul_of_pos_right hr (Nat.two_pow_pos t)
    omega
  have hsplit : r * 2 ^ t =
      r * 2 ^ (t - gridShift p (r * 2 ^ t) 1) * 2 ^ gridShift p (r * 2 ^ t) 1 := by
    rw [Nat.mul_assoc, ← Nat.pow_add, Nat.sub_add_cancel hshift]
  rw [magnitude_nearestCode hp Nat.one_pos, Nat.one_mul]
  generalize gridShift p (r * 2 ^ t) 1 = s at *
  conv_lhs => rw [hsplit, divideEven_mul_right _ _ (Nat.two_pow_pos s)]
  exact hsplit.symm

/-- What is above a number on the grid is not rounded to below it. -/
lemma le_magnitude_nearestCode (hp : 0 < p) {n d r t : Nat} (hd : 0 < d) (hr : r < 2 ^ p)
    (h : r * 2 ^ t * d ≤ n) : r * 2 ^ t ≤ magnitude p (nearestCode p n d) := by
  rw [← magnitude_nearestCode_mul_pow hp hr t]
  refine (magnitude_strictMono p).monotone (nearestCode_mono hp Nat.one_pos hd ?_)
  rwa [Nat.mul_one]

/-- What is below a number on the grid is not rounded to above it. -/
lemma magnitude_nearestCode_le (hp : 0 < p) {n d r t : Nat} (hd : 0 < d) (hr : r < 2 ^ p)
    (h : n ≤ r * 2 ^ t * d) : magnitude p (nearestCode p n d) ≤ r * 2 ^ t := by
  rw [← magnitude_nearestCode_mul_pow hp hr t]
  refine (magnitude_strictMono p).monotone (nearestCode_mono hp hd Nat.one_pos ?_)
  rwa [Nat.mul_one]

/-- Rounding to a number of `p + t` bits misses by half of `2 ^ t` at most. -/
lemma two_mul_magnitude_of_lt (hp : 0 < p) {n d t : Nat} (hd : 0 < d)
    (h : magnitude p (nearestCode p n d) < 2 ^ (p + t)) :
    2 * (magnitude p (nearestCode p n d) * d) ≤ 2 * n + 2 ^ t * d ∧
      2 * n ≤ 2 * (magnitude p (nearestCode p n d) * d) + 2 ^ t * d := by
  have hstep : gridShift p n d ≤ t := by
    by_contra hlarge
    obtain hzero | hmany := (isGrid_nearestCode hp hd (n := n)).enough
    · omega
    have hless : 2 ^ (p + t) ≤ 2 ^ (p - 1 + gridShift p n d) :=
      Nat.pow_le_pow_right (by decide) (by omega)
    have hleast := Nat.mul_le_mul_right (2 ^ gridShift p n d) hmany
    rw [← magnitude_nearestCode hp hd, ← Nat.pow_add] at hleast
    omega
  have hmiss : 2 ^ gridShift p n d * d ≤ 2 ^ t * d :=
    Nat.mul_le_mul_right d (Nat.pow_le_pow_right (by decide) hstep)
  have hnear := two_mul_magnitude_nearestCode hp hd (n := n)
  omega

end SpindleDrive
