import SpindleDrive.Proofs.Number.TwoRoundings
import SpindleDrive.Proofs.Toml.Reading

/-!
# Speeds in a document

A speed is written with the fewest digits that read back in one rounding, and read through double
precision.  Here the digits are followed through the document: the text is a numeral with a point,
the decimal that it is read as is the point that was found for the code, and so the speed is the one
of both roundings.

* `exists_positional` — the digits around the point.
* `exists_ofCode` — the same of the text of a code, which always has a point.
* `IsPoint.throughBinary64_eq` — a decimal that is a point becomes the speed of both roundings.
* **`exists_isScalarText_ofCode`** — what the text of a code is read as.
-/

namespace SpindleDrive

namespace Toml

/-! ## Digits around a point -/

/-- The digits of a number around the point before its last places. -/
lemma exists_positional (n : Nat) {places : Nat} (hplaces : 0 < places) :
    ∃ whole fraction, (Binary32.positional n places).toList = whole ++ '.' :: fraction ∧
      IsNumeral whole ∧ IsDigits fraction ∧ fraction.length = places ∧
      Nat.ofDigitChars 10 (whole ++ fraction) 0 = n := by
  have hdigits := isNumeral_toDigits n
  have hvalue : Nat.ofDigitChars 10 (Nat.toDigits 10 n) 0 = n :=
    Nat.ofDigitChars_toDigits (by decide) (by decide)
  rw [Binary32.positional, if_neg (by omega)]
  generalize Nat.toDigits 10 n = digits at *
  dsimp only
  generalize hpadded : List.replicate (places + 1 - digits.length) '0' ++ digits = padded
  have hlength : padded.length = max (places + 1) digits.length := by
    rw [← hpadded, List.length_append, List.length_replicate]
    omega
  have hdigit : ∀ c ∈ padded, c.isDigit = true := by
    intro c hc
    rw [← hpadded] at hc
    obtain hc | hc := List.mem_append.1 hc
    · obtain rfl := List.eq_of_mem_replicate hc
      rfl
    · exact hdigits.isDigit c hc
  refine ⟨_, _, String.toList_ofList, ⟨⟨?_, ?_⟩, ?_⟩, ⟨?_, ?_⟩, ?_, ?_⟩
  · rw [← List.length_pos_iff, List.length_take]
    omega
  · exact fun c hc => hdigit c (List.mem_of_mem_take hc)
  · intro c rest hzero
    -- two digits before the point are the number's own
    have hlong := congrArg List.length hzero
    rw [List.length_take, List.length_cons, List.length_cons] at hlong
    have hnone : places + 1 - digits.length = 0 := by omega
    rw [hnone, List.replicate_zero, List.nil_append] at hpadded
    refine hdigits.leading c (rest ++ padded.drop (padded.length - places)) ?_
    rw [hpadded, ← List.cons_append, ← List.cons_append, ← hzero, List.take_append_drop]
  · rw [← List.length_pos_iff, List.length_drop]
    omega
  · exact fun c hc => hdigit c (List.mem_of_mem_drop hc)
  · rw [List.length_drop]
    omega
  · have hzeros : Nat.ofDigitChars 10 (List.replicate (places + 1 - digits.length) '0') 0 = 0 := by
      simp
    rw [List.take_append_drop, ← hpadded, Nat.ofDigitChars_append, hzeros, hvalue]

/-- The digits of a code's text around its point. -/
lemma exists_ofCode {code : Nat} (hfinite : code + 1 < infinityCode) :
    ∃ whole fraction, (ofCode (code + 1)).toList = whole ++ '.' :: fraction ∧
      IsNumeral whole ∧ IsDigits fraction ∧ fraction.length ≤ Binary32.finestPlaces ∧
      Nat.ofDigitChars 10 (whole ++ fraction) 0 * 10 ^ Binary32.finestPlaces =
        Binary32.shortestPoint (code + 1) * 10 ^ fraction.length := by
  obtain ⟨multiple, place, hshortest, -, hpoint, -⟩ := Binary32.shortestDigits_spec code
  have htext : Binary32.codeText (code + 1) =
      if 0 ≤ (place : Int) - Binary32.finestPlaces then
        toString (multiple * 10 ^ ((place : Int) - Binary32.finestPlaces).toNat)
      else Binary32.positional multiple (-((place : Int) - Binary32.finestPlaces)).toNat := by
    rw [Binary32.codeText, if_neg (by omega), if_neg (by omega), hshortest]
  rw [hpoint]
  obtain hfew | hmany := Nat.lt_or_ge place Binary32.finestPlaces
  · have hplaces : (-((place : Int) - Binary32.finestPlaces)).toNat =
        Binary32.finestPlaces - place := by omega
    rw [if_neg (by omega), hplaces] at htext
    obtain ⟨whole, fraction, hdigits, hwhole, hfraction, hlength, hvalue⟩ :=
      exists_positional multiple (show 0 < Binary32.finestPlaces - place by omega)
    refine ⟨whole, fraction, ?_, hwhole, hfraction, by omega, ?_⟩
    · rw [ofCode, htext, if_pos (by simp [hdigits]), hdigits]
    · rw [hvalue, hlength, Nat.mul_assoc, ← Nat.pow_add, Nat.add_sub_cancel' hfew.le]
  · have hplaces : ((place : Int) - Binary32.finestPlaces).toNat =
        place - Binary32.finestPlaces := by omega
    rw [if_pos (by omega), hplaces] at htext
    generalize hn : multiple * 10 ^ (place - Binary32.finestPlaces) = n at htext
    have hdigit := (isNumeral_toDigits n).isDigit
    refine ⟨Nat.toDigits 10 n, ['0'], ?_, isNumeral_toDigits n, ⟨by simp, by simp⟩, by decide, ?_⟩
    · have hpoint : '.' ∉ Nat.toDigits 10 n := fun hmem => absurd (hdigit '.' hmem) (by decide)
      rw [ofCode, htext, if_neg (by simpa using hpoint)]
      simp
    · have hscale : multiple * 10 ^ place = n * 10 ^ Binary32.finestPlaces := by
        rw [← hn, Nat.mul_assoc, ← Nat.pow_add, Nat.sub_add_cancel hmany]
      have hlast : Nat.ofDigitChars 10 ['0'] n = n * 10 := by
        simp [Nat.ofDigitChars_cons, Nat.mul_comm]
      rw [hscale, Nat.ofDigitChars_append, Nat.ofDigitChars_ten_toDigits, hlast,
        Nat.mul_right_comm]
      rfl

/-! ## Roundings -/

/-- A point of the grid of `10 ^ -60`, of at most `2 ^ 128`, as a decimal with so many places. -/
structure IsPoint (x : Decimal) (point places : Nat) : Prop where
  negative : x.negative = false
  pos : 0 < point
  le : point ≤ 2 ^ 128 * 10 ^ Binary32.finestPlaces
  exponent : x.exponent = -(places : Int)
  places_pos : 0 < places
  places_le : places ≤ Binary32.finestPlaces
  value : x.digits * 10 ^ Binary32.finestPlaces = point * 10 ^ places

namespace IsPoint

variable {x : Decimal} {point places : Nat}

lemma digits_ne_zero (h : IsPoint x point places) : x.digits ≠ 0 := by
  intro hzero
  have hvalue := h.value
  rw [hzero, Nat.zero_mul] at hvalue
  exact absurd hvalue (Nat.mul_pos h.pos (Nat.pow_pos (by decide))).ne

/-- A point has few digits before its places. -/
lemma length_toDigits_le (h : IsPoint x point places) :
    (Nat.toDigits 10 x.digits).length ≤ 100 + places := by
  refine (Nat.length_toDigits_le_iff (by omega) (by omega)).2 ?_
  have hlarge : 2 ^ 128 < 10 ^ 100 := by decide
  have hscale : 0 < 10 ^ places * 10 ^ Binary32.finestPlaces :=
    Nat.mul_pos (Nat.pow_pos (by decide)) (Nat.pow_pos (by decide))
  refine Nat.lt_of_mul_lt_mul_right (a := 10 ^ Binary32.finestPlaces) ?_
  calc x.digits * 10 ^ Binary32.finestPlaces
      = point * 10 ^ places := h.value
    _ ≤ 2 ^ 128 * 10 ^ Binary32.finestPlaces * 10 ^ places := Nat.mul_le_mul_right _ h.le
    _ = 2 ^ 128 * (10 ^ places * 10 ^ Binary32.finestPlaces) := by
        rw [Nat.mul_right_comm, Nat.mul_assoc]
    _ < 10 ^ 100 * (10 ^ places * 10 ^ Binary32.finestPlaces) :=
        Nat.mul_lt_mul_of_pos_right hlarge hscale
    _ = 10 ^ (100 + places) * 10 ^ Binary32.finestPlaces := by
        rw [Nat.pow_add 10 100, Nat.mul_assoc]

/-- The code of a decimal is that of the point. -/
lemma code_eq (h : IsPoint x point places) {p : Nat} (hp : 0 < p) (scale tooLarge : Nat) :
    x.code p scale tooLarge =
      nearestCode p (point * 2 ^ scale) (10 ^ Binary32.finestPlaces) := by
  have hleading : x.leadingPlace = (Nat.toDigits 10 x.digits).length - (places : Int) := by
    rw [Decimal.leadingPlace, h.exponent]
    rfl
  have hlength := h.length_toDigits_le
  have hexponent := h.exponent
  have hfew : places ≤ 60 := h.places_le
  have hpos := h.places_pos
  rw [Decimal.code, if_neg h.digits_ne_zero, if_neg (by omega), if_neg (by omega),
    if_neg (by omega)]
  refine nearestCode_congr hp (Nat.pow_pos (by decide)) (Nat.pow_pos (by decide)) ?_
  rw [hexponent, Int.neg_neg, Int.toNat_natCast, Nat.mul_right_comm, h.value, Nat.mul_right_comm]

lemma doubleCode_eq (h : IsPoint x point places) :
    x.doubleCode = nearestCode 53 (point * 2 ^ 1074) (10 ^ Binary32.finestPlaces) :=
  h.code_eq (by decide) 1074 doubleInfinityCode

lemma overflowsDouble_eq_false (h : IsPoint x point places) : x.overflowsDouble = false := by
  have hlargest : nearestCode 53 (2 ^ 128 * 2 ^ 1074) 1 < doubleInfinityCode := by decide +kernel
  have hless : x.doubleCode ≤ nearestCode 53 (2 ^ 128 * 2 ^ 1074) 1 := by
    rw [h.doubleCode_eq]
    refine nearestCode_mono (by decide) (Nat.pow_pos (by decide)) Nat.one_pos ?_
    generalize 2 ^ 1074 = scale
    rw [Nat.mul_one, Nat.mul_right_comm]
    exact Nat.mul_le_mul_right _ h.le
  rw [Decimal.overflowsDouble, decide_eq_false_iff_not]
  omega

/-- **A point is read as the speed of both roundings.** -/
lemma throughBinary64_eq (h : IsPoint x point places) :
    x.throughBinary64 = .ofCode false
      (nearestCode 24 (Binary32.doublePoint point) (2 * Binary32.halfUnit)) := by
  have hpoint : magnitude 53 x.doubleCode = Binary32.doublePoint point := by
    have hplaces : Binary32.tiePlaces + 178 = 1074 := rfl
    rw [Binary32.doublePoint, hplaces, ← h.doubleCode_eq]
  have hunit : 2 ^ (1074 - 149) = 2 * Binary32.halfUnit := by
    have hplaces : 1074 - 149 = Binary32.tiePlaces + 28 + 1 := rfl
    rw [hplaces, Nat.pow_succ', Binary32.halfUnit]
  rw [Decimal.throughBinary64, h.overflowsDouble_eq_false, if_neg Bool.false_ne_true, hpoint,
    h.negative, Binary32.ofQuotient, hunit]

end IsPoint

/-- The text of a code is read as the point that was found for it. -/
lemma isPoint_of_digits {code : Nat} {whole fraction : List Char}
    (hfinite : code + 1 < infinityCode) (hfraction : IsDigits fraction)
    (hlength : fraction.length ≤ Binary32.finestPlaces)
    (hvalue : Nat.ofDigitChars 10 (whole ++ fraction) 0 * 10 ^ Binary32.finestPlaces =
      Binary32.shortestPoint (code + 1) * 10 ^ fraction.length) :
    IsPoint (.ofDigits false whole fraction 0) (Binary32.shortestPoint (code + 1))
      fraction.length := by
  obtain ⟨⟨hlow, hhigh⟩, -⟩ := Binary32.shortestPoint_between code
  have hthis := Binary32.units_lt_succ code
  have hlargest : Binary32.units infinityCode = 2 ^ 128 * Binary32.unitsPerOne := by decide +kernel
  have hmono : Monotone Binary32.units := (magnitude_strictMono 24).monotone
  have hpos : 0 < 10 ^ Binary32.finestPlaces := Nat.pow_pos (by decide)
  refine ⟨rfl, ?_, ?_, by simp [Decimal.ofDigits], ?_, hlength, hvalue⟩
  · by_contra hzero
    have hzero : Binary32.shortestPoint (code + 1) = 0 := by omega
    rw [hzero, Nat.zero_mul] at hlow
    have habove : 0 < (Binary32.units code + Binary32.units (code + 1)) *
      10 ^ Binary32.finestPlaces := Nat.mul_pos (by omega) hpos
    omega
  · have hbelow : Binary32.units (code + 1) + Binary32.units (code + 2) ≤
        2 ^ 128 * (2 * Binary32.unitsPerOne) := by
      have hthis := hmono (show code + 1 ≤ infinityCode by omega)
      have hnext := hmono (show code + 2 ≤ infinityCode by omega)
      rw [hlargest] at hthis hnext
      rw [Nat.mul_left_comm]
      omega
    refine Nat.le_of_mul_le_mul_right (hhigh.trans ?_) (show 0 < 2 * Binary32.unitsPerOne by decide)
    rw [Nat.mul_right_comm]
    exact Nat.mul_le_mul_right _ hbelow
  · exact List.length_pos_iff.2 hfraction.ne_nil

/-- **The text of a code is read as the speed of both roundings.** -/
theorem exists_isScalarText_ofCode {code : Nat} (hfinite : code + 1 < infinityCode) :
    ∃ x : Decimal, IsScalarText (ofCode (code + 1)).toList (.float (.finite x)) ∧
      x.throughBinary64 = .ofCode false (Binary32.rereadCode (code + 1)) := by
  obtain ⟨whole, fraction, htext, hwhole, hfraction, hlength, hvalue⟩ := exists_ofCode hfinite
  have hpoint := isPoint_of_digits hfinite hfraction hlength hvalue
  exact ⟨_, htext ▸ isScalarText_point hwhole hfraction hpoint.overflowsDouble_eq_false,
    hpoint.throughBinary64_eq⟩

end Toml

end SpindleDrive
