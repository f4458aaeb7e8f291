import SpindleDrive.Proofs.Number.Bands

/-!
# Rounding in order

A speed becomes a code by a product, a quotient and two roundings, and a code becomes a speed by a
product and a quotient.  None of these steps can bring two numbers out of order, however much it
rounds, overflows or vanishes, because each acts on the codes of magnitudes alone and in order.

* `Binary32.extend`, **`Binary32.Scales`** — an operation that keeps signs and acts on codes in
  order, infinity staying what it is; `Scales.le` — it keeps the order of numbers.
* `Binary32.scales_mul`, `scales_div`, `scales_round` — products with a positive finite number,
  quotients by one, and the nearest integral value.
* `Binary32.clampBelow_le`, `smaller_le`, `toUInt16_le` — the steps that bring a number into a word.
* `Binary32.toUInt16_round` — which word a number becomes.
* `SpeedScale.toCode_le`, `SpeedScale.toSpeed_le` — both conversions keep the order.
* `SpeedScale.toCode_eq_zero_iff` — which speeds have the code zero.
* **`SpeedScale.isOrdered_of_make`** — every scale that can be made converts in order, and never
  to a NaN.
-/

namespace SpindleDrive

namespace Binary32

/-! ## Operations on magnitudes -/

lemma le_signed {s t : Bool} {a b : Nat} {ha : a ≤ infinityCode} {hb : b ≤ infinityCode} :
    le (signed s a ha) (signed t b hb) = true ↔ place s a ≤ place t b := by
  simp [le]

lemma lt_signed {s t : Bool} {a b : Nat} {ha : a ≤ infinityCode} {hb : b ≤ infinityCode} :
    lt (signed s a ha) (signed t b hb) = true ↔ place s a < place t b := by
  simp [lt]

/-- A map of finite codes, cut off at infinity, which stays what it is. -/
def extend (near : Nat → Nat) (code : Nat) : Nat :=
  if infinityCode ≤ code then infinityCode else min (near code) infinityCode

/-- **An operation that keeps signs and acts on codes in order.** -/
structure Scales (op : Binary32 → Binary32) (near : Nat → Nat) : Prop where
  signed : ∀ s a ha, op (signed s a ha) = ofCode s (extend near a)
  mono : Monotone near
  zero : near 0 = 0

lemma extend_mono {near : Nat → Nat} (h : Monotone near) : Monotone (extend near) := by
  intro a b hab
  rw [extend, extend]
  split
  · rw [if_pos (by omega)]
  · split
    · exact Nat.min_le_right _ _
    · have hnear : near a ≤ near b := h hab
      omega

/-- **Such an operation keeps the order of numbers.** -/
theorem Scales.le {op : Binary32 → Binary32} {near : Nat → Nat} (h : Scales op near)
    {x y : Binary32} (hxy : le x y = true) : le (op x) (op y) = true := by
  rcases x with _ | ⟨s, a, ha⟩
  · simp [Binary32.le] at hxy
  rcases y with _ | ⟨t, b, hb⟩
  · simp [Binary32.le] at hxy
  have hmono : Monotone (extend near) := extend_mono h.mono
  have hzero : extend near 0 = 0 := by
    rw [extend, if_neg (by decide), h.zero]
    rfl
  have hplace := le_signed.1 hxy
  rw [h.signed, h.signed]
  refine le_signed.2 ?_
  cases s
  · cases t
    · -- both positive
      have hab : extend near a ≤ extend near b := hmono (by simpa [place] using hplace)
      simp only [place, Bool.false_eq_true, if_false]
      omega
    · -- both are zero
      simp only [place, Bool.false_eq_true, if_false, if_true] at hplace
      obtain rfl : a = 0 := by omega
      obtain rfl : b = 0 := by omega
      simp [place, hzero]
  · cases t
    · simp only [place, Bool.false_eq_true, if_false, if_true]
      omega
    · -- both negative
      have hba : extend near b ≤ extend near a := hmono (by simpa [place] using hplace)
      simp only [place, if_true]
      omega

/-- Infinity stays what it is. -/
lemma Scales.keeps_infinity {op : Binary32 → Binary32} {near : Nat → Nat} (h : Scales op near) :
    op infinity = infinity := by
  refine (h.signed false _ _).trans ?_
  rw [extend, if_pos (by decide)]
  rfl

/-- What is rounded from a growing number of units grows. -/
lemma nearestCode_units_mono {k d : Nat} (hd : 0 < d) :
    Monotone fun a => nearestCode 24 (units a * k) d := by
  intro a b hab
  refine nearestCode_mono (by decide) hd hd (Nat.mul_le_mul_right d (Nat.mul_le_mul_right k ?_))
  exact (magnitude_strictMono 24).monotone hab

variable {x y z : Binary32}

/-- A product with a positive finite number. -/
lemma scales_mul {b : Nat} (hb : b ≤ infinityCode) (hpos : 0 < b) (hfinite : b < infinityCode) :
    Scales (· * signed false b hb) fun a => nearestCode 24 (units a * units b) unitsPerOne where
  signed s a ha := by
    have hsign : (s != false) = s := by cases s <;> rfl
    show mul (signed s a ha) (signed false b hb) = _
    rw [mul, hsign, extend]
    by_cases hinfinite : a = infinityCode
    · rw [if_pos (.inl hinfinite), if_neg (by omega), if_pos (by omega)]
    · rw [if_neg (by omega), if_neg (by omega), ofQuotient, ofCode, ofCode]
      simp only [Nat.min_assoc, Nat.min_self]
  mono := nearestCode_units_mono (by decide)
  zero := by
    have hzero : units 0 * units b = 0 := Nat.zero_mul _
    rw [hzero, nearestCode_zero]

/-- A quotient by a positive finite number. -/
lemma scales_div {b : Nat} (hb : b ≤ infinityCode) (hpos : 0 < b) (hfinite : b < infinityCode) :
    Scales (· / signed false b hb) fun a => nearestCode 24 (units a * unitsPerOne) (units b) where
  signed s a ha := by
    have hsign : (s != false) = s := by cases s <;> rfl
    show div (signed s a ha) (signed false b hb) = _
    rw [div, hsign, extend]
    by_cases hinfinite : a = infinityCode
    · rw [if_pos hinfinite, if_neg (by omega), if_pos (by omega)]
    · rw [if_neg hinfinite, if_neg (by omega), if_neg (by omega), if_neg (by omega), ofQuotient,
        ofCode, ofCode]
      simp only [Nat.min_assoc, Nat.min_self]
  mono := nearestCode_units_mono (units_pos hpos)
  zero := by
    have hzero : units 0 * unitsPerOne = 0 := Nat.zero_mul _
    rw [hzero, nearestCode_zero]

/-- The integer nearest to a number of units, halves going up. -/
def nearestWhole (units : Nat) : Nat := (units + unitsPerOne / 2) / unitsPerOne

/-- The nearest integral value. -/
lemma scales_round :
    Scales round fun a => nearestCode 24 (nearestWhole (units a) * unitsPerOne) 1 where
  signed s a ha := by
    rw [round, extend]
    by_cases hinfinite : a = infinityCode
    · subst hinfinite
      rw [if_pos rfl, if_pos (Nat.le_refl _)]
      rfl
    · rw [if_neg hinfinite, if_neg (by omega), ofQuotient, ofCode, ofCode]
      simp only [Nat.min_assoc, Nat.min_self]
      rfl
  mono := by
    intro a b hab
    refine nearestCode_mono (by decide) Nat.one_pos Nat.one_pos ?_
    refine Nat.mul_le_mul_right _ (Nat.mul_le_mul_right _ (Nat.div_le_div_right ?_))
    exact Nat.add_le_add_right ((magnitude_strictMono 24).monotone hab) _
  zero := by
    have hzero : nearestWhole (units 0) = 0 := by decide
    rw [hzero, Nat.zero_mul, nearestCode_zero]

lemma le_mul_right (hfinite : z.isFinite = true) (hpos : z.isPositive = true)
    (h : le x y = true) : le (x * z) (y * z) = true := by
  obtain ⟨b, hb, rfl, hb'⟩ := exists_of_isPositive hpos
  exact (scales_mul hb hb' (by simpa [isFinite] using hfinite)).le h

lemma le_div_right (hfinite : z.isFinite = true) (hpos : z.isPositive = true)
    (h : le x y = true) : le (x / z) (y / z) = true := by
  obtain ⟨b, hb, rfl, hb'⟩ := exists_of_isPositive hpos
  exact (scales_div hb hb' (by simpa [isFinite] using hfinite)).le h

lemma isNaN_of_isNonneg (h : x.isNonneg = true) : x.isNaN = false := by
  cases x with
  | nan => simp [isNonneg, le] at h
  | signed => rfl

/-- A number that is at most zero is not above it. -/
lemma isPositive_of_le_zero (h : le x zero = true) : x.isPositive = false := by
  rcases x with _ | ⟨s, a, ha⟩
  · rfl
  · have hplace : place s a ≤ 0 := le_signed.1 h
    have hpos : (signed s a ha).isPositive = true ↔ 0 < place s a := lt_signed
    exact Bool.eq_false_iff.2 (hpos.not.2 (Int.not_lt.2 hplace))

/-- What is not above zero is zero, no number, or below zero. -/
lemma isPositive_eq_false_iff :
    x.isPositive = false ↔ x.isZero = true ∨ x.isNaN = true ∨ lt x zero = true := by
  rcases x with _ | ⟨s, a, ha⟩
  · simp [isPositive, isNaN, lt]
  · have hpos : (signed s a ha).isPositive = true ↔ 0 < place s a := lt_signed
    have hneg : lt (signed s a ha) zero = true ↔ place s a < 0 := lt_signed
    have hzero : (signed s a ha).isZero = true ↔ place s a = 0 := by
      cases s <;> simp [isZero, place]
    have hnumber : (signed s a ha).isNaN = false := rfl
    rw [Bool.eq_false_iff, ne_eq, hpos, hneg, hzero, hnumber]
    simp only [Bool.false_eq_true, false_or]
    omega

/-! ## Into a word -/

lemma clampBelow_le (h : le x y = true) : le x.clampBelow y.clampBelow = true := by
  rcases x with _ | ⟨s, a, ha⟩
  · simp [le] at h
  rcases y with _ | ⟨t, b, hb⟩
  · simp [le] at h
  have hplace := le_signed.1 h
  have hx : (signed s a ha).isPositive = true ↔ 0 < place s a := lt_signed
  have hy : (signed t b hb).isPositive = true ↔ 0 < place t b := lt_signed
  rw [clampBelow, clampBelow]
  by_cases hpos : 0 < place s a
  · rw [if_pos (hx.2 hpos), if_pos (hy.2 (hpos.trans_le hplace))]
    exact h
  · rw [if_neg (hx.not.2 hpos)]
    split
    · rename_i hpos'
      exact le_signed.2 (hy.1 hpos').le
    · rfl

lemma smaller_le (h : le x y = true) : le (x.smaller z) (y.smaller z) = true := by
  rcases x with _ | ⟨s, a, ha⟩
  · simp [le] at h
  rcases y with _ | ⟨t, b, hb⟩
  · simp [le] at h
  rcases z with _ | ⟨w, d, hd⟩
  · exact h
  have hplace := le_signed.1 h
  have hx : lt (signed w d hd) (signed s a ha) = true ↔ place w d < place s a := lt_signed
  have hy : lt (signed w d hd) (signed t b hb) = true ↔ place w d < place t b := lt_signed
  simp only [smaller, isNaN, Bool.false_eq_true, if_false]
  by_cases hless : place w d < place s a
  · rw [if_pos (hx.2 hless), if_pos (hy.2 (hless.trans_le hplace))]
    exact le_signed.2 (Int.le_refl _)
  · rw [if_neg (hx.not.2 hless)]
    split
    · exact le_signed.2 (Int.not_lt.1 hless)
    · exact h

lemma toUInt16_le (h : le x y = true) : x.toUInt16 ≤ y.toUInt16 := by
  rcases x with _ | ⟨s, a, ha⟩
  · simp [le] at h
  rcases y with _ | ⟨t, b, hb⟩
  · simp [le] at h
  have hplace := le_signed.1 h
  cases s
  · cases t
    · have hab : a ≤ b := by simpa [place] using hplace
      have hunits : units a / unitsPerOne ≤ units b / unitsPerOne :=
        Nat.div_le_div_right ((magnitude_strictMono 24).monotone hab)
      rw [UInt16.le_iff_toNat_le, toUInt16, toUInt16]
      split
      · rw [if_pos (by omega)]
      · split
        · exact Nat.le_of_lt_succ (UInt16.toNat_lt _)
        · rw [UInt16.toNat_ofNat', UInt16.toNat_ofNat']
          generalize units a / unitsPerOne = k at *
          generalize units b / unitsPerOne = l at *
          omega
    · simp only [place, Bool.false_eq_true, if_false, if_true] at hplace
      obtain rfl : a = 0 := by omega
      have hnothing : zero.toUInt16 = 0 := by decide
      have hle : zero.toUInt16 ≤ (signed true b hb).toUInt16 := by
        rw [hnothing]
        exact UInt16.zero_le
      exact hle
  · exact UInt16.zero_le

/-- A whole number that is not too large is a binary32 number. -/
lemma units_nearestCode_ofNat {k : Nat} (hk : k < 2 ^ 24) :
    units (nearestCode 24 (k * unitsPerOne) 1) = k * unitsPerOne :=
  magnitude_nearestCode_mul_pow (by decide) hk 149

/-- The code of the largest word. -/
def largestWordCode : Nat := 0x477FFF00

lemma nearestCode_largestWord : nearestCode 24 (0xFFFF * unitsPerOne) 1 = largestWordCode := by
  decide

/-- **The word of a number** is the integer nearest to it, as long as there is one. -/
lemma toUInt16_round {b : Nat} {hb : b ≤ infinityCode} (hfinite : b < infinityCode) :
    ((signed false b hb).round.smaller SpeedScale.largestCode).toUInt16 =
      UInt16.ofNat (min (nearestWhole (units b)) 0xFFFF) := by
  have hlargest : SpeedScale.largestCode = signed false largestWordCode (by decide) := by
    decide
  have hless : largestWordCode < infinityCode := by decide
  rw [scales_round.signed, extend, if_neg (by omega), hlargest, ofCode]
  generalize hwhole : nearestWhole (units b) = k
  generalize hcode : nearestCode 24 (k * unitsPerOne) 1 = m
  simp only [smaller, isNaN, Bool.false_eq_true, if_false, lt, place, decide_eq_true_eq,
    Int.ofNat_lt]
  by_cases hsmall : k ≤ 0xFFFF
  · have hm : m ≤ largestWordCode := by
      rw [← hcode, ← nearestCode_largestWord]
      refine nearestCode_mono (by decide) Nat.one_pos Nat.one_pos ?_
      exact Nat.mul_le_mul_right _ (Nat.mul_le_mul_right _ hsmall)
    have hunits : units m = k * unitsPerOne := by
      rw [← hcode, units_nearestCode_ofNat (by omega)]
    have hmin : min (min m infinityCode) infinityCode = m := by omega
    simp only [hmin]
    rw [if_neg (by omega), toUInt16, if_neg (by omega), hunits, Nat.mul_div_cancel _ (by decide)]
  · have hm : largestWordCode ≤ m := by
      rw [← hcode, ← nearestCode_largestWord]
      refine nearestCode_mono (by decide) Nat.one_pos Nat.one_pos ?_
      exact Nat.mul_le_mul_right _ (Nat.mul_le_mul_right _ (by omega))
    have hword : min k 0xFFFF = 0xFFFF := by omega
    have hlargestWord :
        (signed false largestWordCode (by decide)).toUInt16 = UInt16.ofNat 0xFFFF := by decide
    rw [hword]
    split
    · exact hlargestWord
    · have hmin : min (min m infinityCode) infinityCode = largestWordCode := by omega
      simp only [hmin]
      exact hlargestWord

/-! ## Words as numbers -/

/-- The code of a word stands for the word. -/
lemma exists_ofNat {n : Nat} (h : n ≤ 0xFFFF) :
    ∃ c hc, ofNat n = signed false c hc ∧ (0 < n → 0 < c) ∧ c < infinityCode ∧
      units c = n * unitsPerOne := by
  have hcode : nearestCode 24 (n * unitsPerOne) 1 ≤ largestWordCode := by
    rw [← nearestCode_largestWord]
    refine nearestCode_mono (by decide) Nat.one_pos Nat.one_pos ?_
    exact Nat.mul_le_mul_right _ (Nat.mul_le_mul_right _ h)
  have hless : largestWordCode < infinityCode := by decide
  have hmin : min (nearestCode 24 (n * unitsPerOne) 1) infinityCode =
      nearestCode 24 (n * unitsPerOne) 1 := by omega
  have hpos : 0 < n → 0 < nearestCode 24 (n * unitsPerOne) 1 := by
    intro hn
    exact nearestCode_pos (by decide) Nat.one_pos (Nat.mul_pos hn (by decide))
  refine ⟨_, Nat.min_le_right _ _, rfl, ?_, by omega, ?_⟩
  · rwa [hmin]
  · rw [hmin, units_nearestCode_ofNat (by omega)]

lemma isFinite_ofNat {n : Nat} (h : n ≤ 0xFFFF) : (ofNat n).isFinite = true := by
  obtain ⟨c, hc, hn, -, hfinite, -⟩ := exists_ofNat h
  rw [hn]
  exact decide_eq_true hfinite

lemma ofNat_le {m n : Nat} (h : m ≤ n) : le (ofNat m) (ofNat n) = true := by
  have hcode : nearestCode 24 (m * unitsPerOne) 1 ≤ nearestCode 24 (n * unitsPerOne) 1 := by
    refine nearestCode_mono (by decide) Nat.one_pos Nat.one_pos ?_
    exact Nat.mul_le_mul_right _ (Nat.mul_le_mul_right _ h)
  refine le_signed.2 ?_
  simp only [place, Bool.false_eq_true, if_false]
  omega

/-- One half. -/
def half : Binary32 := ofNat 1 / ofNat 2

/-- The code of one half. -/
def halfCode : Nat := 0x3F000000

lemma half_eq : half = signed false halfCode (by decide) := by decide

lemma units_halfCode : units halfCode = unitsPerOne / 2 := by decide

/-- Nothing but what is less than a half is nearest to zero. -/
lemma nearestWhole_eq_zero_iff {b : Nat} : nearestWhole (units b) = 0 ↔ b < halfCode := by
  have hone : unitsPerOne = 2 * (unitsPerOne / 2) := by decide
  have hpos : 0 < unitsPerOne := by decide
  rw [← (magnitude_strictMono 24).lt_iff_lt, nearestWhole, Nat.div_eq_zero_iff_lt hpos]
  show units b + unitsPerOne / 2 < unitsPerOne ↔ units b < units halfCode
  rw [units_halfCode]
  omega

end Binary32

/-! ## Conversions -/

namespace SpeedScale

open Binary32

/-- What a scale is made of, and that it is made of anything that makes sense. -/
lemma make_eq_ok_iff {rpmPerHz : Binary32} {unitsPerHz : UInt16} {s : SpeedScale} :
    make rpmPerHz unitsPerHz = .ok s ↔ s.rpmPerHz = rpmPerHz ∧ s.unitsPerHz = unitsPerHz := by
  rw [make]
  constructor
  · intro h
    split at h
    · split at h
      · cases h
      · cases h
        exact ⟨rfl, rfl⟩
    · cases h
  · rintro ⟨rfl, rfl⟩
    rw [dif_pos ⟨s.finite, s.positive⟩, dif_neg s.units_ne_zero]

variable (s : SpeedScale)

lemma isFinite_units : s.units.isFinite = true :=
  isFinite_ofNat (Nat.le_of_lt_succ s.unitsPerHz.toNat_lt)

lemma unitsPerHz_pos : 0 < s.unitsPerHz.toNat :=
  Nat.pos_of_ne_zero fun h => s.units_ne_zero (UInt16.toNat_inj.1 h)

lemma isPositive_units : s.units.isPositive = true :=
  isPositive_ofNat s.unitsPerHz_pos

/-- The speed of one hertz, by its code. -/
lemma exists_ratio :
    ∃ r hr, s.rpmPerHz = signed false r hr ∧ 0 < r ∧ r < infinityCode := by
  obtain ⟨r, hr, hratio, hpos⟩ := exists_of_isPositive s.positive
  have hfinite := s.finite
  rw [hratio] at hfinite
  exact ⟨r, hr, hratio, hpos, by simpa [isFinite] using hfinite⟩

/-- The units of one hertz, by their code. -/
lemma exists_units :
    ∃ u hu, s.units = signed false u hu ∧ 0 < u ∧ u < infinityCode ∧
      Binary32.units u = s.unitsPerHz.toNat * unitsPerOne := by
  obtain ⟨u, hu, hunits, hpos, hfinite, hexact⟩ :=
    exists_ofNat (Nat.le_of_lt_succ s.unitsPerHz.toNat_lt)
  exact ⟨u, hu, hunits, hpos s.unitsPerHz_pos, hfinite, hexact⟩

variable {s} {a b rpm : Binary32}

/-- **A higher speed has no lower code.** -/
theorem toCode_le (h : le a b = true) : s.toCode a ≤ s.toCode b := by
  have hproduct : le (a.clampBelow * s.units) (b.clampBelow * s.units) = true :=
    le_mul_right s.isFinite_units s.isPositive_units (clampBelow_le h)
  have hquotient := le_div_right s.finite s.positive hproduct
  exact toUInt16_le (smaller_le (scales_round.le hquotient))

lemma toCode_of_not_isPositive (h : rpm.isPositive = false) : s.toCode rpm = 0 := by
  have hword : (zero.round.smaller largestCode).toUInt16 = 0 := by decide
  rw [toCode, clampBelow_of_not_isPositive h, zero_mul s.isFinite_units s.isPositive_units,
    zero_div s.positive, hword]

lemma toCode_infinity : s.toCode .infinity = 0xFFFF := by
  have hclamp : infinity.clampBelow = infinity := by decide
  have hword : (infinity.round.smaller largestCode).toUInt16 = 0xFFFF := by decide
  obtain ⟨u, hu, hunits, hupos, hufinite, -⟩ := s.exists_units
  obtain ⟨r, hr, hratio, hrpos, hrfinite⟩ := s.exists_ratio
  have hproduct : infinity * signed false u hu = infinity :=
    (scales_mul hu hupos hufinite).keeps_infinity
  have hquotient : infinity / signed false r hr = infinity :=
    (scales_div hr hrpos hrfinite).keeps_infinity
  rw [toCode, hclamp, hunits, hratio, hproduct, hquotient, hword]

/-- **A higher code has no lower speed.** -/
theorem toSpeed_le {c d : UInt16} (h : c ≤ d) : le (s.toSpeed c) (s.toSpeed d) = true := by
  have hcode : le (.ofNat c.toNat) (.ofNat d.toNat) = true := ofNat_le (UInt16.le_iff_toNat_le.1 h)
  have hproduct := le_mul_right s.finite s.positive hcode
  exact le_div_right s.isFinite_units s.isPositive_units hproduct

lemma isNonneg_toSpeed (code : UInt16) : (s.toSpeed code).isNonneg = true := by
  have hle : le (s.toSpeed 0) (s.toSpeed code) = true := toSpeed_le UInt16.zero_le
  rwa [toSpeed_zero] at hle

/-- **Which speeds have the code zero**: those that are not above zero, and those that come to less
than half a unit. -/
theorem toCode_eq_zero_iff :
    s.toCode rpm = 0 ↔
      rpm.isPositive = false ∨ lt (rpm * s.units / s.rpmPerHz) half = true := by
  cases hpos : rpm.isPositive
  · simp [toCode_of_not_isPositive hpos]
  have hclamp : rpm.clampBelow = rpm := if_pos hpos
  obtain ⟨x, hx, rfl, -⟩ := exists_of_isPositive hpos
  obtain ⟨u, hu, hunits, hupos, hufinite, -⟩ := s.exists_units
  obtain ⟨r, hr, hratio, hrpos, hrfinite⟩ := s.exists_ratio
  obtain ⟨b, hb, hquotient⟩ :
      ∃ b hb, signed false x hx * s.units / s.rpmPerHz = signed false b hb := by
    rw [hunits, hratio, (scales_mul hu hupos hufinite).signed, ofCode,
      (scales_div hr hrpos hrfinite).signed]
    exact ⟨_, Nat.min_le_right _ _, rfl⟩
  have hless : lt (signed false b hb) half = true ↔ b < halfCode := by
    rw [half_eq, lt_signed]
    simp [place]
  rw [toCode, hclamp, hquotient, hless]
  obtain rfl | hfinite := Nat.eq_or_lt_of_le hb
  · have hword : (infinity.round.smaller largestCode).toUInt16 ≠ 0 := by decide
    have hlarge : ¬infinityCode < halfCode := by decide
    exact iff_of_false hword (by simp [hlarge])
  · rw [toUInt16_round hfinite, ← UInt16.toNat_inj, UInt16.toNat_ofNat',
      ← nearestWhole_eq_zero_iff]
    simp only [UInt16.toNat_zero, Bool.true_eq_false, false_or]
    omega

/-- **A scale converts in order** between all speeds and all codes.  What is no speed or is not
above zero has the code zero, what is infinite has the last code, and a code has a speed that is a
number and not below zero, though it may be infinite. -/
structure IsOrdered (s : SpeedScale) : Prop where
  toCode_le : ∀ a b, le a b = true → s.toCode a ≤ s.toCode b
  toCode_nan : s.toCode .nan = 0
  toCode_of_le_zero : ∀ rpm, le rpm zero = true → s.toCode rpm = 0
  toCode_infinity : s.toCode .infinity = 0xFFFF
  toSpeed_isNaN : ∀ code, (s.toSpeed code).isNaN = false
  toSpeed_isNonneg : ∀ code, (s.toSpeed code).isNonneg = true
  toSpeed_le : ∀ c d, c ≤ d → le (s.toSpeed c) (s.toSpeed d) = true

/-- **Every scale that can be made converts in order**, and a scale can be made of every finite
positive speed of one hertz, however small, and of any units but none. -/
theorem isOrdered_of_make (rpmPerHz : Binary32) (unitsPerHz : UInt16) :
    ((∃ s, make rpmPerHz unitsPerHz = .ok s) ↔
      rpmPerHz.isFinite = true ∧ rpmPerHz.isPositive = true ∧ unitsPerHz ≠ 0) ∧
    ∀ s, make rpmPerHz unitsPerHz = .ok s → s.IsOrdered := by
  refine ⟨⟨?_, ?_⟩, fun s _ => ?_⟩
  · rintro ⟨s, hmake⟩
    obtain ⟨rfl, rfl⟩ := make_eq_ok_iff.1 hmake
    exact ⟨s.finite, s.positive, s.units_ne_zero⟩
  · rintro ⟨hfinite, hpos, hunits⟩
    exact ⟨⟨rpmPerHz, unitsPerHz, hfinite, hpos, hunits⟩, make_eq_ok_iff.2 ⟨rfl, rfl⟩⟩
  · have hnonneg (code : UInt16) : (s.toSpeed code).isNonneg = true := isNonneg_toSpeed code
    exact {
      toCode_le := fun a b => SpeedScale.toCode_le
      toCode_nan := toCode_of_not_isPositive rfl
      toCode_of_le_zero := fun rpm hle => toCode_of_not_isPositive (isPositive_of_le_zero hle)
      toCode_infinity := SpeedScale.toCode_infinity
      toSpeed_isNaN := fun code => isNaN_of_isNonneg (hnonneg code)
      toSpeed_isNonneg := hnonneg
      toSpeed_le := fun c d => SpeedScale.toSpeed_le }

/-- The smallest number can be the speed of one hertz, and then all but the smallest speeds have the
last code. -/
theorem isOrdered_of_smallest :
    ∃ s, make (.ofBits 1) 0xFFFF = .ok s ∧ s.IsOrdered ∧
      le (.ofBits 1) (.ofBits 0x7F7FFFFF) = true ∧
      s.toCode (.ofBits 1) ≤ s.toCode (.ofBits 0x7F7FFFFF) := by
  have hmake : make (.ofBits 1) 0xFFFF =
      .ok ⟨.ofBits 1, 0xFFFF, by decide, by decide, by decide⟩ := by decide
  have hordered := (isOrdered_of_make (.ofBits 1) 0xFFFF).2 _ hmake
  have hle : le (.ofBits 1) (.ofBits 0x7F7FFFFF) = true := by decide
  exact ⟨_, hmake, hordered, hle, hordered.toCode_le _ _ hle⟩

end SpeedScale

end SpindleDrive
