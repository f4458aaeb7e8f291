import SpindleDrive.Proofs.Config.Validation
import SpindleDrive.Proofs.Number.Errors

/-!
# From a speed to a code and back

The codes of a drive can stand for the speeds from zero to the speed of the last code, and such a
speed should come back from its code within a quantum.  It does wherever what comes back is finite.
But a speed is multiplied before it is divided, and with a ratio beyond all machines the product can
be too large where the quotient would not be; the speed then has the last code.

* `Binary32.exact`, `Binary32.IsWithin` — what a number is, and the distance of two numbers.
* `SpeedScale.toSpeed_of_le`, `exists_toSpeed` — how a code is read, with and without an overflow.
* `SpeedScale.toCode_of_le`, `exists_toCode` — the same for how a speed is written.
* `SpeedScale.InRange`, `SpeedScale.Returns` — the speeds there are codes for, and that one comes
  back.
* `SpeedScale.returns_of_isFinite` — a speed in range comes back if its code has a finite speed.
* `SpeedScale.forall_returns_iff` — the ratios with which all of them do.
* **`Config.returns_of_validate`** — the same of both scales of a valid configuration;
  `Config.not_returns` — a configuration and a speed in range that does not come back.
-/

namespace SpindleDrive

namespace Binary32

/-! ## Codes of products and quotients -/

lemma ofCode_extend {negative : Bool} {near : ℕ → ℕ} {a : ℕ} (h : a < infinityCode) :
    ofCode negative (extend near a) = ofCode negative (near a) := by
  rw [extend, if_neg (by omega), ofCode, ofCode]
  simp only [Nat.min_assoc, Nat.min_self]

lemma ofCode_of_lt {negative : Bool} {a : ℕ} (h : a < infinityCode) :
    ofCode negative a = signed negative a h.le := by
  rw [ofCode]
  congr 1
  omega

lemma ofCode_of_le {a : ℕ} (h : infinityCode ≤ a) : ofCode false a = infinity := by
  rw [infinity, ofCode, ofCode]
  congr 1
  omega

variable {x k r : ℕ} {hx : x ≤ infinityCode} {hr : r ≤ infinityCode}

lemma signed_mul_ofNat (hfinite : x < infinityCode) (hpos : 0 < k) (hk : k ≤ 0xFFFF) :
    signed false x hx * ofNat k = ofCode false (nearestCode 24 (units x * k) 1) := by
  obtain ⟨c, hc, hword, hcpos, hcfinite, hexact⟩ := exists_ofNat hk
  have hcode : nearestCode 24 (units x * units c) unitsPerOne =
      nearestCode 24 (units x * k) 1 := by
    refine nearestCode_congr (by decide) (by decide) Nat.one_pos ?_
    rw [hexact]
    ring
  rw [hword]
  refine ((scales_mul hc (hcpos hpos) hcfinite).signed false x hx).trans ?_
  rw [ofCode_extend hfinite, hcode]

lemma ofNat_mul_signed (hrpos : 0 < r) (hfinite : r < infinityCode) (hk : k ≤ 0xFFFF) :
    ofNat k * signed false r hr = ofCode false (nearestCode 24 (k * units r) 1) := by
  obtain ⟨c, hc, hword, -, hcfinite, hexact⟩ := exists_ofNat hk
  have hcode : nearestCode 24 (units c * units r) unitsPerOne =
      nearestCode 24 (k * units r) 1 := by
    refine nearestCode_congr (by decide) (by decide) Nat.one_pos ?_
    rw [hexact]
    ring
  rw [hword]
  refine ((scales_mul hr hrpos hfinite).signed false c hc).trans ?_
  rw [ofCode_extend hcfinite, hcode]

lemma signed_div_signed (hfinite : x < infinityCode) (hrpos : 0 < r) (hrfinite : r < infinityCode) :
    signed false x hx / signed false r hr =
      ofCode false (nearestCode 24 (units x * unitsPerOne) (units r)) := by
  refine ((scales_div hr hrpos hrfinite).signed false x hx).trans ?_
  rw [ofCode_extend hfinite]

/-- A quotient by a whole number is no larger, so it is finite. -/
lemma signed_div_ofNat (hx : x ≤ infinityCode) (hfinite : x < infinityCode) (hpos : 0 < k)
    (hk : k ≤ 0xFFFF) :
    ∃ c hc, signed false x hx / ofNat k = signed false c hc ∧ c < infinityCode ∧
      c = nearestCode 24 (units x) k := by
  obtain ⟨c, hc, hword, hcpos, hcfinite, hexact⟩ := exists_ofNat hk
  have hcode : nearestCode 24 (units x * unitsPerOne) (units c) = nearestCode 24 (units x) k := by
    refine nearestCode_congr (by decide) (units_pos (hcpos hpos)) hpos ?_
    rw [hexact]
    ring
  have hless : nearestCode 24 (units x) k ≤ x := by
    conv_rhs => rw [← nearestCode_units x]
    refine nearestCode_mono (by decide) hpos Nat.one_pos ?_
    exact Nat.mul_le_mul_left _ hpos
  refine ⟨_, (hless.trans_lt hfinite).le, ?_, hless.trans_lt hfinite, rfl⟩
  rw [hword, signed_div_signed hfinite (hcpos hpos) hcfinite, hcode,
    ofCode_of_lt (hless.trans_lt hfinite)]

/-- The word of what is rounded, whatever it is rounded to. -/
lemma toUInt16_round_ofCode (b : ℕ) :
    ((ofCode false b).round.smaller SpeedScale.largestCode).toUInt16 =
      UInt16.ofNat (min (nearestWhole (units b)) 0xFFFF) := by
  by_cases hfinite : b < infinityCode
  · rw [ofCode_of_lt hfinite, toUInt16_round hfinite]
  · have hlarge : 0xFFFF ≤ nearestWhole (units infinityCode) := by decide
    have hmore : nearestWhole (units infinityCode) ≤ nearestWhole (units b) := by
      refine Nat.div_le_div_right (Nat.add_le_add_right ?_ _)
      exact (magnitude_strictMono 24).monotone (Nat.not_lt.1 hfinite)
    have hword : (infinity.round.smaller SpeedScale.largestCode).toUInt16 =
        UInt16.ofNat 0xFFFF := by decide
    rw [ofCode_of_le (Nat.not_lt.1 hfinite), hword, Nat.min_eq_right (hlarge.trans hmore)]

/-- The number of units in a magnitude; what is no number has none. -/
def size : Binary32 → ℕ
  | nan => 0
  | signed _ code _ => units code

/-- **What a number is**, exactly.  Only a finite number is what this says. -/
def exact : Binary32 → ℚ
  | nan => 0
  | signed negative code _ =>
    (if negative then -(units code : ℚ) else units code) / (unitsPerOne : ℕ)

/-- **Two numbers are no further apart than a third**, exactly and not after another rounding. -/
structure IsWithin (x y distance : Binary32) : Prop where
  finite_left : x.isFinite = true
  finite_right : y.isFinite = true
  finite_distance : distance.isFinite = true
  near : |x.exact - y.exact| ≤ distance.exact

instance (x y distance : Binary32) : Decidable (IsWithin x y distance) :=
  decidable_of_iff (x.isFinite = true ∧ y.isFinite = true ∧ distance.isFinite = true ∧
      |x.exact - y.exact| ≤ distance.exact)
    ⟨fun ⟨hx, hy, hdistance, hnear⟩ => ⟨hx, hy, hdistance, hnear⟩,
      fun ⟨hx, hy, hdistance, hnear⟩ => ⟨hx, hy, hdistance, hnear⟩⟩

lemma isWithin_of_units {a b q : ℕ} {ha : a ≤ infinityCode} {hb : b ≤ infinityCode}
    {hq : q ≤ infinityCode} (hafinite : a < infinityCode) (hbfinite : b < infinityCode)
    (hqfinite : q < infinityCode) (h : |(units a : ℚ) - units b| ≤ units q) :
    IsWithin (signed false a ha) (signed false b hb) (signed false q hq) where
  finite_left := decide_eq_true hafinite
  finite_right := decide_eq_true hbfinite
  finite_distance := decide_eq_true hqfinite
  near := by
    have hone : (0 : ℚ) < (unitsPerOne : ℕ) := by
      have hpos : 0 < unitsPerOne := by decide
      exact_mod_cast hpos
    simp only [exact, Bool.false_eq_true, if_false]
    rw [← sub_div, abs_div, abs_of_pos hone]
    exact div_le_div_of_nonneg_right h hone.le

/-- What is not above a finite number is finite, unless it is below zero. -/
lemma isFinite_of_le {x y : Binary32} (hx : x.isNonneg = true) (hle : le x y = true)
    (hy : y.isFinite = true) : x.isFinite = true := by
  rcases x with _ | ⟨s, a, ha⟩
  · simp [isNonneg, le] at hx
  rcases y with _ | ⟨t, b, hb⟩
  · simp [le] at hle
  have hb' : b < infinityCode := of_decide_eq_true hy
  have hplace := le_signed.1 hle
  refine decide_eq_true ?_
  obtain rfl | rfl := isNonneg_signed.1 hx
  · cases t
    · simp only [place, Bool.false_eq_true, if_false] at hplace
      omega
    · simp only [place, Bool.false_eq_true, if_false, if_true] at hplace
      omega
  · decide

end Binary32

namespace SpeedScale

open Binary32

variable (s : SpeedScale) {x : ℕ} {hx : x ≤ infinityCode} {c : UInt16}

/-! ## Conversions in units -/

/-- The code of what a speed is divided from. -/
def productCode (c : UInt16) : ℕ := nearestCode 24 (c.toNat * s.rpmPerHz.size) 1

lemma unitsPerHz_le : s.unitsPerHz.toNat ≤ 0xFFFF := Nat.le_of_lt_succ s.unitsPerHz.toNat_lt

lemma size_pos : 0 < s.rpmPerHz.size := by
  obtain ⟨r, hr, hratio, hpos, -⟩ := s.exists_ratio
  rw [hratio]
  exact units_pos hpos

lemma toSpeed_eq :
    s.toSpeed c = ofCode false (s.productCode c) / ofNat s.unitsPerHz.toNat := by
  obtain ⟨r, hr, hratio, hpos, hfinite⟩ := s.exists_ratio
  rw [toSpeed, units, productCode, hratio, size,
    ofNat_mul_signed hpos hfinite (Nat.le_of_lt_succ c.toNat_lt)]

/-- A code whose product is too large has an infinite speed. -/
lemma toSpeed_of_le (hlarge : infinityCode ≤ s.productCode c) : s.toSpeed c = infinity := by
  obtain ⟨u, hu, hunits, hpos, hfinite, -⟩ := s.exists_units
  rw [units] at hunits
  rw [toSpeed_eq, ofCode_of_le hlarge, hunits]
  exact (scales_div hu hpos hfinite).keeps_infinity

/-- Every other code has a finite speed. -/
lemma exists_toSpeed (hsmall : s.productCode c < infinityCode) :
    ∃ e he, s.toSpeed c = signed false e he ∧ e < infinityCode ∧
      IsRead c.toNat s.rpmPerHz.size s.unitsPerHz.toNat (Binary32.units (s.productCode c))
        (Binary32.units e) := by
  obtain ⟨e, he, hspeed, hfinite, hcode⟩ :=
    signed_div_ofNat hsmall.le hsmall s.unitsPerHz_pos s.unitsPerHz_le
  refine ⟨e, he, ?_, hfinite, ?_⟩
  · rw [toSpeed_eq, ofCode_of_lt hsmall, hspeed]
  · exact {
      pos := s.unitsPerHz_pos
      product := isRounded_nearestCode_one _
      quotient := hcode ▸ isRounded_nearestCode _ s.unitsPerHz_pos }

lemma isFinite_toSpeed_iff :
    (s.toSpeed c).isFinite = true ↔ s.productCode c < infinityCode := by
  constructor
  · intro hfinite
    by_contra hlarge
    rw [s.toSpeed_of_le (Nat.not_lt.1 hlarge)] at hfinite
    exact absurd hfinite (by decide)
  · intro hsmall
    obtain ⟨e, he, hspeed, hfinite, -⟩ := s.exists_toSpeed hsmall
    rw [hspeed]
    exact decide_eq_true hfinite

lemma exists_quantum :
    ∃ q hq, s.quantum = signed false q hq ∧ q < infinityCode ∧
      IsRounded ((s.rpmPerHz.size : ℚ) / s.unitsPerHz.toNat) (Binary32.units q) := by
  obtain ⟨r, hr, hratio, -, hfinite⟩ := s.exists_ratio
  obtain ⟨q, hq, hquantum, hqfinite, hcode⟩ :=
    signed_div_ofNat hr hfinite s.unitsPerHz_pos s.unitsPerHz_le
  refine ⟨q, hq, ?_, hqfinite, ?_⟩
  · rw [quantum, units, hratio, hquantum]
  · rw [hratio, size, hcode]
    exact isRounded_nearestCode _ s.unitsPerHz_pos

/-- The code of what is divided by the speed of one hertz. -/
def scaledCode (x : ℕ) : ℕ := nearestCode 24 (Binary32.units x * s.unitsPerHz.toNat) 1

lemma toCode_eq (hpos : 0 < x) (hfinite : x < infinityCode) :
    s.toCode (signed false x hx) =
      ((ofCode false (s.scaledCode x) / s.rpmPerHz).round.smaller largestCode).toUInt16 := by
  have hpos' : (signed false x hx).isPositive = true := by
    simpa [isPositive, lt, zero, ofCode, place] using hpos
  have hclamp : (signed false x hx).clampBelow = signed false x hx := if_pos hpos'
  rw [toCode, hclamp, units, signed_mul_ofNat hfinite s.unitsPerHz_pos s.unitsPerHz_le, scaledCode]

/-- A speed whose product is too large has the last code. -/
lemma toCode_of_le (hx : x ≤ infinityCode) (hpos : 0 < x) (hfinite : x < infinityCode)
    (hlarge : infinityCode ≤ s.scaledCode x) : s.toCode (signed false x hx) = 0xFFFF := by
  obtain ⟨r, hr, hratio, hrpos, hrfinite⟩ := s.exists_ratio
  have hword : (infinity.round.smaller largestCode).toUInt16 = 0xFFFF := by decide
  rw [toCode_eq s hpos hfinite, ofCode_of_le hlarge, hratio,
    (scales_div hr hrpos hrfinite).keeps_infinity, hword]

/-- Every other speed has the code of the nearest whole number. -/
lemma exists_toCode (hx : x ≤ infinityCode) (hpos : 0 < x) (hfinite : x < infinityCode)
    (hsmall : s.scaledCode x < infinityCode) :
    ∃ b, s.toCode (signed false x hx) = UInt16.ofNat (min (nearestWhole b) 0xFFFF) ∧
      IsWritten (Binary32.units x) s.unitsPerHz.toNat s.rpmPerHz.size
        (Binary32.units (s.scaledCode x)) b := by
  obtain ⟨r, hr, hratio, hrpos, hrfinite⟩ := s.exists_ratio
  have hsize : s.rpmPerHz.size = Binary32.units r := by rw [hratio, size]
  have hquotient := isRounded_nearestCode (Binary32.units (s.scaledCode x) * unitsPerOne)
    s.size_pos
  rw [Nat.cast_mul, mul_div_right_comm] at hquotient
  refine ⟨_, ?_, ⟨s.size_pos, isRounded_nearestCode_one _, hquotient⟩⟩
  rw [toCode_eq s hpos hfinite, ofCode_of_lt hsmall, hratio,
    signed_div_signed hsmall hrpos hrfinite, toUInt16_round_ofCode, ← hratio, hsize]

/-! ## In range -/

/-- **The speeds that a code can stand for**: those from zero to the speed of the last code. -/
structure InRange (rpm : Binary32) : Prop where
  finite : rpm.isFinite = true
  nonneg : rpm.isNonneg = true
  le_last : le rpm (s.toSpeed 0xFFFF) = true

/-- A speed comes back from its code within the speed of one unit. -/
def Returns (rpm : Binary32) : Prop := IsWithin (s.toSpeed (s.toCode rpm)) rpm s.quantum

variable {s}

/-- The code of a positive speed in range stands to it as it should. -/
lemma suits_toCode (hpos : 0 < x) (hrange : s.InRange (signed false x hx))
    {e : ℕ} {he : e ≤ infinityCode}
    (hspeed : s.toSpeed (s.toCode (signed false x hx)) = signed false e he)
    (hsmall : s.productCode (s.toCode (signed false x hx)) < infinityCode) :
    Suits (Binary32.units x) s.unitsPerHz.toNat s.rpmPerHz.size
      (s.toCode (signed false x hx)).toNat (Binary32.units e) := by
  have hsize : (0 : ℚ) < s.rpmPerHz.size := by exact_mod_cast s.size_pos
  -- the last code is read as no less than the speed, being the end of the range
  have hhigh (hlast : s.toCode (signed false x hx) = 0xFFFF) :
      Binary32.units x ≤ Binary32.units e := by
    have hle := hrange.le_last
    rw [← hlast, hspeed] at hle
    have hxe : x ≤ e := by simpa [place] using le_signed.1 hle
    exact (magnitude_strictMono 24).monotone hxe
  have hfinite : x < infinityCode := of_decide_eq_true hrange.finite
  rcases Nat.lt_or_ge (s.scaledCode x) infinityCode with hscaled | hlarge
  · obtain ⟨b, hcode, hwritten⟩ := s.exists_toCode hx hpos hfinite hscaled
    by_cases hcount : nearestWhole b ≤ 0xFFFF
    · have hword : (s.toCode (signed false x hx)).toNat = nearestWhole b := by
        rw [hcode, Nat.min_eq_left hcount, UInt16.toNat_ofNat']
        omega
      rw [hword]
      exact .near hcount (hwritten.near hcount) (hwritten.near_of_lt hcount)
    · rw [Nat.min_eq_right (by omega)] at hcode
      refine .last (by rw [hcode]; rfl) (hwritten.le_of_lt (by omega)) (hhigh hcode)
  · -- the product of the last code is finite, so it is the smaller of the two
    have hlast := s.toCode_of_le hx hpos hfinite hlarge
    refine .last (by rw [hlast]; rfl) ?_ (hhigh hlast)
    rw [le_div_iff₀ hsize]
    have hproduct : 65535 * s.rpmPerHz.size ≤ Binary32.units x * s.unitsPerHz.toNat := by
      by_contra hless
      have hmono : s.scaledCode x ≤ s.productCode 0xFFFF :=
        nearestCode_mono (by decide) Nat.one_pos Nat.one_pos
          (Nat.mul_le_mul_right 1 (Nat.le_of_lt (Nat.not_le.1 hless)))
      rw [hlast] at hsmall
      exact absurd (hlarge.trans hmono) (Nat.not_le.2 hsmall)
    exact_mod_cast hproduct

/-- **There and back**: a speed in range comes back if its code has a finite speed at all. -/
theorem returns_of_isFinite (hunits : s.unitsPerHz ≤ 100) {rpm : Binary32}
    (hrange : s.InRange rpm) (hfinite : (s.toSpeed (s.toCode rpm)).isFinite = true) :
    s.Returns rpm := by
  obtain ⟨q, hq, hquantum, hqfinite, hstep⟩ := s.exists_quantum
  rcases rpm with _ | ⟨negative, x, hx⟩
  · exact absurd hrange.finite (by decide)
  obtain rfl | hpos := Nat.eq_zero_or_pos x
  · -- neither zero has a code other than zero
    have hnot : (signed negative 0 hx).isPositive = false := by
      cases negative <;> rfl
    rw [Returns, toCode_of_not_isPositive hnot, toSpeed_zero, hquantum]
    exact {
      finite_left := by decide
      finite_right := hrange.finite
      finite_distance := decide_eq_true hqfinite
      near := by
        have hzero : Binary32.units 0 = 0 := rfl
        have hexact : (signed negative 0 hx).exact = 0 := by
          cases negative <;> simp [exact, hzero]
        have hexact' : zero.exact = 0 := by simp [exact, zero, ofCode, hzero]
        rw [hexact, hexact', sub_self, abs_zero]
        exact div_nonneg (Nat.cast_nonneg _) (Nat.cast_nonneg _) }
  · obtain rfl : negative = false := (isNonneg_signed.1 hrange.nonneg).resolve_right hpos.ne'
    have hsmall := s.isFinite_toSpeed_iff.1 hfinite
    obtain ⟨e, he, hspeed, hefinite, hread⟩ := s.exists_toSpeed hsmall
    have hsuits := suits_toCode hpos hrange hspeed hsmall
    rw [Returns, hspeed, hquantum]
    refine isWithin_of_units hefinite (of_decide_eq_true hrange.finite) hqfinite ?_
    exact abs_sub_le_step s.size_pos (UInt16.le_iff_toNat_le.1 hunits) hread hsuits hstep

/-! ## Which scales bring every speed back -/

/-- The ratio from which the product of the last code is too large, which is about 5.19e33. -/
def largeRatio : Binary32 := .ofBits 0x77800080

variable (s) in
/-- **Which ratios give the last code a finite speed.** -/
theorem isFinite_toSpeed_last_iff :
    (s.toSpeed 0xFFFF).isFinite = true ↔ lt s.rpmPerHz largeRatio = true := by
  obtain ⟨r, hr, hratio, -, -⟩ := s.exists_ratio
  have hlarge : largeRatio = signed false 0x77800080 (by decide) := by decide
  have hmono : Monotone fun a => nearestCode 24 (65535 * Binary32.units a) 1 := by
    intro a b hab
    refine nearestCode_mono (by decide) Nat.one_pos Nat.one_pos ?_
    exact Nat.mul_le_mul_right 1
      (Nat.mul_le_mul_left _ ((magnitude_strictMono 24).monotone hab))
  have hbelow : nearestCode 24 (65535 * Binary32.units 0x7780007F) 1 < infinityCode := by
    decide
  have habove : infinityCode ≤ nearestCode 24 (65535 * Binary32.units 0x77800080) 1 := by
    decide
  have hcode : s.productCode 0xFFFF = nearestCode 24 (65535 * Binary32.units r) 1 := by
    rw [productCode, hratio, size]
    rfl
  rw [isFinite_toSpeed_iff, hcode, hratio, hlarge, lt_signed]
  simp only [place, Bool.false_eq_true, if_false]
  constructor
  · intro hsmall
    by_contra hmore
    exact absurd (habove.trans (hmono (by omega))) (Nat.not_le.2 hsmall)
  · intro hless
    exact (hmono (by omega : r ≤ 0x7780007F)).trans_lt hbelow

/-- A product with two of the largest number is too large. -/
lemma le_scaledCode_largest (hunits : 2 ≤ s.unitsPerHz) :
    infinityCode ≤ s.scaledCode 0x7F7FFFFF := by
  have htwice : Binary32.units infinityCode ≤ Binary32.units 0x7F7FFFFF * 2 := by decide
  conv_lhs => rw [← nearestCode_units infinityCode]
  refine nearestCode_mono (by decide) Nat.one_pos Nat.one_pos ?_
  have hmore : Binary32.units 0x7F7FFFFF * 2 ≤
      Binary32.units 0x7F7FFFFF * s.unitsPerHz.toNat :=
    Nat.mul_le_mul_left _ (UInt16.le_iff_toNat_le.1 hunits)
  exact Nat.mul_le_mul_right 1 (htwice.trans hmore)

/-- **A scale brings every speed in range back** exactly if its ratio is not so large that the
product of the last code overflows. -/
theorem forall_returns_iff (hmore : 2 ≤ s.unitsPerHz) (hless : s.unitsPerHz ≤ 100) :
    (∀ rpm, s.InRange rpm → s.Returns rpm) ↔ lt s.rpmPerHz largeRatio = true := by
  rw [← isFinite_toSpeed_last_iff]
  constructor
  · intro hreturns
    by_contra hinfinite
    rw [isFinite_toSpeed_iff, Nat.not_lt] at hinfinite
    have hlast : s.toSpeed 0xFFFF = infinity := s.toSpeed_of_le hinfinite
    have hcode : s.toCode (signed false 0x7F7FFFFF (by decide)) = 0xFFFF :=
      s.toCode_of_le (by decide) (by decide) (by decide) (le_scaledCode_largest hmore)
    have hrange : s.InRange (signed false 0x7F7FFFFF (by decide)) :=
      ⟨by decide, by decide, by rw [hlast]; decide⟩
    have hfinite := (hreturns _ hrange).finite_left
    rw [hcode, hlast] at hfinite
    exact absurd hfinite (by decide)
  · intro hfinite rpm hrange
    have hle : le (s.toSpeed (s.toCode rpm)) (s.toSpeed 0xFFFF) = true :=
      toSpeed_le (UInt16.le_iff_toNat_le.2 (Nat.le_of_lt_succ (UInt16.toNat_lt _)))
    exact returns_of_isFinite hless hrange (isFinite_of_le (isNonneg_toSpeed _) hle hfinite)

end SpeedScale

/-! ## The scales of a configuration -/

namespace Config

open Binary32 SpeedScale

variable {c : Config} {s : SpeedScale} {units : UInt16}

lemma ratio_of_scaleFor (h : c.scaleFor units = .ok s) :
    s.rpmPerHz = c.rpmPerHz ∧ s.unitsPerHz = units := by
  rw [scaleFor] at h
  cases hmake : SpeedScale.make c.rpmPerHz units with
  | error e =>
      rw [hmake] at h
      cases h
  | ok s' =>
      rw [hmake] at h
      cases h
      exact make_eq_ok_iff.1 hmake

/-- Both resolutions of a model are from two to a hundred. -/
lemma units_bounds (m : DriveModel) :
    (2 ≤ m.registers.unitsPerHz ∧ m.registers.unitsPerHz ≤ 100) ∧
      2 ≤ m.registers.maxFrequencyUnitsPerHz ∧ m.registers.maxFrequencyUnitsPerHz ≤ 100 := by
  cases m <;> decide

/-- **Which speeds come back from their codes.**  A valid configuration has two scales.  On both, a
speed in range comes back within a quantum exactly if what comes back is finite, and all speeds in
range do exactly if the ratio is below 5.19e33. -/
theorem returns_of_validate (valid : c.validate = .ok ()) :
    ∃ frequency highest, c.speedScale = .ok frequency ∧ c.maxSpeedScale = .ok highest ∧
      ∀ s, s = frequency ∨ s = highest →
        (∀ rpm, s.InRange rpm → (s.Returns rpm ↔ (s.toSpeed (s.toCode rpm)).isFinite = true)) ∧
        ((∀ rpm, s.InRange rpm → s.Returns rpm) ↔ lt c.rpmPerHz largeRatio = true) := by
  obtain ⟨frequency, hfrequency⟩ := exists_scaleFor valid c.model.units_ne_zero.1
  obtain ⟨highest, hhighest⟩ := exists_scaleFor valid c.model.units_ne_zero.2
  refine ⟨frequency, highest, hfrequency, hhighest, ?_⟩
  intro s hs
  obtain ⟨hratio, hmore, hless⟩ :
      s.rpmPerHz = c.rpmPerHz ∧ 2 ≤ s.unitsPerHz ∧ s.unitsPerHz ≤ 100 := by
    obtain ⟨hbounds, hbounds'⟩ := units_bounds c.model
    obtain rfl | rfl := hs
    · obtain ⟨hratio, hunits⟩ := ratio_of_scaleFor hfrequency
      exact ⟨hratio, hunits ▸ hbounds⟩
    · obtain ⟨hratio, hunits⟩ := ratio_of_scaleFor hhighest
      exact ⟨hratio, hunits ▸ hbounds'⟩
  constructor
  · intro rpm hrange
    constructor
    · intro hreturns
      exact hreturns.finite_left
    · intro hfinite
      exact returns_of_isFinite hless hrange hfinite
  · rw [← hratio]
    exact forall_returns_iff hmore hless

/-- The settings that there are without a file bring every speed in range back. -/
theorem returns_of_default :
    Config.validate {} = .ok () ∧
    ∃ frequency highest, Config.speedScale {} = .ok frequency ∧
      Config.maxSpeedScale {} = .ok highest ∧
      ∀ s, s = frequency ∨ s = highest → ∀ rpm, s.InRange rpm → s.Returns rpm := by
  have hsmall : lt (Binary32.ofNat 60) largeRatio = true := by decide
  obtain ⟨frequency, highest, hfrequency, hhighest, h⟩ := returns_of_validate (c := {}) rfl
  exact ⟨rfl, frequency, highest, hfrequency, hhighest, fun s hs => (h s hs).2.2 hsmall⟩

/-- **A speed in range that does not come back**: the product with the units of one hertz overflows,
so the speed has the last code, though the fourth would bring it back. -/
theorem not_returns :
    ∃ s, Config.validate { rpmPerHz := .ofBits 0x7E967699 } = .ok () ∧
      Config.speedScale { rpmPerHz := .ofBits 0x7E967699 } = .ok s ∧
      s.InRange (.ofBits 0x7DCFA3AB) ∧ s.toCode (.ofBits 0x7DCFA3AB) = 0xFFFF ∧
      ¬s.Returns (.ofBits 0x7DCFA3AB) ∧
      IsWithin (s.toSpeed 3) (.ofBits 0x7DCFA3AB) s.quantum := by
  refine ⟨⟨.ofBits 0x7E967699, 10, by decide, by decide, by decide⟩, by decide, by rfl,
    ?_, ?_, ?_, ?_⟩
  · exact ⟨by decide, by decide, by decide +kernel⟩
  · decide
  · intro hreturns
    exact absurd hreturns.finite_left (by decide +kernel)
  · decide +kernel

end Config

end SpindleDrive
