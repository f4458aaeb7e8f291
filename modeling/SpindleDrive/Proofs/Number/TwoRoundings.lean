import SpindleDrive.Proofs.Number.NearMisses
import SpindleDrive.Proofs.Number.Shortest

/-!
# Shortest texts read in double precision

The shortest text of a number is made to be read in one rounding.  Where it is rounded to double
precision first, a halfway point between two codes is a double precision number too, so the first
rounding cannot go past one; but it can end on one, and there the second goes to the even code.

* `doublePoint` — what the first rounding makes of a point of the grid of `10 ^ -60`.
* `rereadCode` — the code that both roundings make of the shortest text of a code.
* `rereadCode_of_not_tie` — an even code reads back, and an odd one unless its text ends on a
  halfway point.
* `near_of_tie`, `IsOddCode.pow_dvd` — a text that does was close to the halfway point, and is a
  multiple of a power of ten that the size of the number gives.
* `IsOddCode.mem_tieMisses` — so it is among the near misses of its size.
* `settled` — of these there are few, and all of them read back but one.
* **`rereadCode_eq`** — every code but one reads back, and that one as the next.
-/

namespace SpindleDrive

namespace Binary32

/-! ## The two roundings -/

/-- The step of double precision numbers near a halfway point of the smallest size, as a power of
two. -/
def tiePlaces : Nat := 896

/-- Half of the single precision unit, in units of double precision. -/
def halfUnit : Nat := 2 ^ (tiePlaces + 28)

/-- The double precision number, in its units, that is nearest to a point. -/
def doublePoint (point : Nat) : Nat :=
  magnitude 53 (nearestCode 53 (point * 2 ^ (tiePlaces + 178)) (10 ^ finestPlaces))

/-- The code as which the shortest text of a code is read. -/
def rereadCode (code : Nat) : Nat :=
  nearestCode 24 (doublePoint (shortestPoint code)) (2 * halfUnit)

lemma halfUnit_pos : 0 < halfUnit := Nat.two_pow_pos _

lemma mul_halfUnit (m s : Nat) : m * 2 ^ s * halfUnit = m * 2 ^ (s + (tiePlaces + 28)) := by
  rw [halfUnit, Nat.pow_add 2 s, Nat.mul_assoc]

lemma mul_double_units (point : Nat) :
    point * 2 ^ (tiePlaces + 178) = point * (2 * unitsPerOne) * halfUnit := by
  have hplaces : tiePlaces + 178 = 149 + 1 + (tiePlaces + 28) := by omega
  rw [halfUnit, unitsPerOne, ← Nat.pow_succ', Nat.mul_assoc, ← Nat.pow_add, hplaces]

/-! ## Halfway points -/

/-- Halfway points have one bit more than numbers have. -/
lemma exists_halfway (code : Nat) :
    ∃ m s, units code + units (code + 1) = m * 2 ^ s ∧ m < 2 ^ 25 := by
  obtain ⟨s, r, rfl, henough, hless⟩ := exists_grid 24 code
  obtain ⟨hthis, hnext⟩ := magnitude_succ henough hless
  refine ⟨2 * r + 1, s, ?_, by omega⟩
  rw [units, units, hthis, hnext, Nat.add_one_mul (2 * r), Nat.mul_assoc]
  omega

variable {code point : Nat}

/-- **The first rounding does not go below a halfway point.** -/
lemma le_doublePoint
    (h : (units code + units (code + 1)) * 10 ^ finestPlaces ≤ point * (2 * unitsPerOne)) :
    (units code + units (code + 1)) * halfUnit ≤ doublePoint point := by
  obtain ⟨m, s, hhalfway, hm⟩ := exists_halfway code
  rw [hhalfway] at h ⊢
  rw [mul_halfUnit]
  refine le_magnitude_nearestCode (by decide) (by decide) (by omega) ?_
  rw [← mul_halfUnit, mul_double_units, Nat.mul_right_comm (m * 2 ^ s)]
  exact Nat.mul_le_mul_right _ h

/-- Nor does it go above one. -/
lemma doublePoint_le
    (h : point * (2 * unitsPerOne) ≤ (units code + units (code + 1)) * 10 ^ finestPlaces) :
    doublePoint point ≤ (units code + units (code + 1)) * halfUnit := by
  obtain ⟨m, s, hhalfway, hm⟩ := exists_halfway code
  rw [hhalfway] at h ⊢
  rw [mul_halfUnit]
  refine magnitude_nearestCode_le (by decide) (by decide) (by omega) ?_
  rw [← mul_halfUnit, mul_double_units, Nat.mul_right_comm (m * 2 ^ s)]
  exact Nat.mul_le_mul_right _ h

/-- **An even code reads back, and an odd one unless its text ends on a halfway point.** -/
lemma rereadCode_of_not_tie
    (hodd : (code + 1) % 2 = 1 →
      (units code + units (code + 1)) * halfUnit ≠ doublePoint (shortestPoint (code + 1)) ∧
        (units (code + 1) + units (code + 2)) * halfUnit ≠
          doublePoint (shortestPoint (code + 1))) :
    rereadCode (code + 1) = code + 1 := by
  obtain ⟨⟨habove, hbelow⟩, -⟩ := shortestPoint_between code
  have habove := le_doublePoint habove
  have hbelow := doublePoint_le hbelow
  have hscale (u : Nat) : u * (2 * halfUnit) = 2 * (u * halfUnit) := Nat.mul_left_comm ..
  refine nearestCode_eq_of_between (by decide) (Nat.mul_pos Nat.two_pos halfUnit_pos) ?_ ?_
    fun hcode => ?_
  · exact (hscale _).trans_le (Nat.mul_le_mul_left 2 habove)
  · exact (Nat.mul_le_mul_left 2 hbelow).trans_eq (hscale _).symm
  · obtain ⟨hlow, hhigh⟩ := hodd hcode
    exact ⟨(hscale _).trans_lt (Nat.mul_lt_mul_of_pos_left (habove.lt_of_ne hlow) Nat.two_pos),
      (Nat.mul_lt_mul_of_pos_left (hbelow.lt_of_ne hhigh.symm) Nat.two_pos).trans_eq
        (hscale _).symm⟩

/-! ## Near misses

A code of size `s` counts steps of `2 ^ s` units.  Halfway points and texts of one size are compared
over a common denominator, in which both are whole: `m * tieStep s` is the halfway point after `m`
half steps, and `point * 2 ^ 179` is a text's point.
-/

/-- The slack that goes with a size: what the first rounding may miss by. -/
def tieSlack (s : Nat) : Nat := 2 ^ s * 10 ^ finestPlaces

/-- What halfway points of a size are multiples of. -/
def tieStep (s : Nat) : Nat := 2 ^ (s + 29) * 10 ^ finestPlaces

/-- The largest power of ten, below a limit, that shortest texts of a size are multiples of. -/
def finePlace (s : Nat) : (limit : Nat) → Nat
  | 0 => 0
  | place + 1 =>
    if 10 ^ place * unitsPerOne < tieSlack s then place else finePlace s place

/-- What shortest texts of a size are multiples of, measured like halfway points. -/
def textStep (s : Nat) : Nat := 10 ^ finePlace s gridCount * 2 ^ 179

/-- **A text that ends on a halfway point was close to it.** -/
lemma near_of_tie {m s : Nat} (hm : m < 2 ^ 25) (h : m * 2 ^ s * halfUnit = doublePoint point) :
    point * 2 ^ 179 ≤ m * tieStep s + tieSlack s ∧
      m * tieStep s ≤ point * 2 ^ 179 + tieSlack s := by
  have hsmall : doublePoint point < 2 ^ (53 + (s + tiePlaces)) := by
    have hbits : 53 + (s + tiePlaces) = 25 + (s + (tiePlaces + 28)) := by omega
    rw [← h, mul_halfUnit, hbits, Nat.pow_add 2 25]
    exact Nat.mul_lt_mul_of_pos_right hm (Nat.two_pow_pos _)
  obtain ⟨hlow, hhigh⟩ := two_mul_magnitude_of_lt (by decide) (by decide) hsmall
  change 2 * (doublePoint point * _) ≤ _ at hlow
  change _ ≤ 2 * (doublePoint point * _) + _ at hhigh
  rw [← h, halfUnit] at hlow hhigh
  simp only [Nat.pow_add 2 s, Nat.pow_add 2 tiePlaces] at hlow hhigh
  have hpos : 0 < 2 ^ tiePlaces := Nat.two_pow_pos _
  rw [tieStep, tieSlack, Nat.pow_add 2 s]
  generalize 2 ^ tiePlaces = w at *
  generalize 2 ^ s = x at *
  generalize 10 ^ finestPlaces = d at *
  constructor
  · refine Nat.le_of_mul_le_mul_left ?_ hpos
    grind
  · refine Nat.le_of_mul_le_mul_left ?_ hpos
    grind

/-! ## Odd codes -/

/-- The size and the number of steps of an odd code: it is the `(2 * j + 1)`-th of its size. -/
structure IsOddCode (s j code : Nat) : Prop where
  enough : s = 0 ∨ 2 ^ 23 ≤ 2 * j
  fits : 2 * j + 1 < 2 ^ 24
  code_eq : code + 1 = s * 2 ^ 23 + (2 * j + 1)

lemma IsOddCode.odd {s j : Nat} (h : IsOddCode s j code) : (code + 1) % 2 = 1 := by
  have hcode := h.code_eq
  omega

lemma exists_isOddCode (h : (code + 1) % 2 = 1) : ∃ s j, IsOddCode s j code := by
  obtain ⟨s, r, hcode, henough, hless⟩ := exists_grid 24 (code + 1)
  have hr : r % 2 = 1 := by omega
  refine ⟨s, r / 2, by omega, by omega, by omega⟩

namespace IsOddCode

variable {s j : Nat}

/-- The code before and the code after have the same size. -/
lemma units_eq (h : IsOddCode s j code) :
    units code = 2 * j * 2 ^ s ∧ units (code + 1) = (2 * j + 1) * 2 ^ s ∧
      units (code + 2) = (2 * j + 2) * 2 ^ s := by
  obtain ⟨henough, hfits, hcode⟩ := h
  obtain rfl : code = s * 2 ^ 23 + 2 * j := by omega
  rw [Nat.add_assoc _ (2 * j) 1, Nat.add_assoc _ (2 * j) 2]
  exact ⟨magnitude_grid ⟨henough, by omega⟩, magnitude_grid ⟨by omega, by omega⟩,
    magnitude_grid ⟨by omega, by omega⟩⟩

/-- The two halfway points around the code. -/
lemma halfway_eq (h : IsOddCode s j code) :
    units code + units (code + 1) = (4 * j + 1) * 2 ^ s ∧
      units (code + 1) + units (code + 2) = (4 * j + 3) * 2 ^ s := by
  obtain ⟨hthis, hnext, hafter⟩ := h.units_eq
  rw [hthis, hnext, hafter, ← Nat.add_mul, ← Nat.add_mul]
  exact ⟨by congr 1; omega, by congr 1; omega⟩

end IsOddCode

/-! ## Sizes -/

lemma finePlace_spec (s : Nat) {limit : Nat} (h : 0 < limit) :
    finePlace s limit < limit ∧ 10 ^ finePlace s limit * unitsPerOne < tieSlack s := by
  induction limit with
  | zero => omega
  | succ limit ih =>
      rw [finePlace]
      split
      · rename_i hthis
        exact ⟨Nat.lt_succ_self limit, hthis⟩
      · rename_i hcoarse
        obtain rfl | hmore := Nat.eq_zero_or_pos limit
        · -- the finest grid is fine enough for every size
          have hfine : unitsPerOne < 10 ^ finestPlaces := by decide
          have hslack : 10 ^ finestPlaces ≤ tieSlack s :=
            Nat.le_mul_of_pos_left _ (Nat.two_pow_pos s)
          omega
        · exact ⟨Nat.lt_succ_of_lt (ih hmore).1, (ih hmore).2⟩

/-- The text of an odd code is a multiple of the power of ten that goes with its size. -/
lemma IsOddCode.pow_dvd {s j : Nat} (h : IsOddCode s j code) :
    10 ^ finePlace s gridCount ∣ shortestPoint (code + 1) := by
  obtain ⟨hplace, hfine⟩ := finePlace_spec s (show 0 < gridCount by decide)
  refine pow_dvd_shortestPoint hplace ?_
  obtain ⟨hlow, hhigh⟩ := h.halfway_eq
  have hwide : (4 * j + 3) * 2 ^ s * 10 ^ finestPlaces =
      (4 * j + 1) * 2 ^ s * 10 ^ finestPlaces + 2 * tieSlack s := by
    rw [tieSlack]
    grind
  rw [IsFiner, hlow, hhigh, hwide, Nat.mul_left_comm]
  omega

/-- The halfway points of a size on which texts may end, each with the multiple of the step of texts
that is close to it. -/
def tieMisses (s : Nat) : Option (List (Nat × Nat)) :=
  nearMisses (tieSlack s) 200 (textStep s) (tieStep s)
    ((2 ^ 25 * tieStep s + tieSlack s) / textStep s)

/-- The text of an odd code is none of the halfway points around it. -/
lemma IsOddCode.ne_halfway {s j m : Nat} (h : IsOddCode s j code)
    (hm : m = 4 * j + 1 ∨ m = 4 * j + 3) :
    shortestPoint (code + 1) * 2 ^ 179 ≠ m * tieStep s := by
  have hstrict : shortestPoint (code + 1) * (2 * unitsPerOne) ≠ m * 2 ^ s * 10 ^ finestPlaces := by
    obtain ⟨hlow, hhigh⟩ := h.halfway_eq
    obtain ⟨hlow', hhigh'⟩ := (shortestPoint_between code).2 h.odd
    rw [hlow] at hlow'
    rw [hhigh] at hhigh'
    obtain rfl | rfl := hm
    · exact hlow'.ne'
    · exact hhigh'.ne
  intro hequal
  refine hstrict (Nat.eq_of_mul_eq_mul_right (Nat.two_pow_pos 29) ?_)
  rw [tieStep, Nat.pow_add] at hequal
  calc shortestPoint (code + 1) * (2 * unitsPerOne) * 2 ^ 29
      = shortestPoint (code + 1) * 2 ^ 179 := Nat.mul_assoc ..
    _ = m * (2 ^ s * 2 ^ 29 * 10 ^ finestPlaces) := hequal
    _ = m * 2 ^ s * 10 ^ finestPlaces * 2 ^ 29 := by ac_rfl

/-- **A text that ends on a halfway point is a near miss.** -/
lemma IsOddCode.mem_tieMisses {s j m : Nat} {found : List (Nat × Nat)} (h : IsOddCode s j code)
    (hfound : tieMisses s = some found) (hm : m = 4 * j + 1 ∨ m = 4 * j + 3)
    (htie : m * 2 ^ s * halfUnit = doublePoint (shortestPoint (code + 1))) :
    ∃ k, (m, k) ∈ found := by
  obtain ⟨k, hk⟩ := h.pow_dvd
  have hstep : shortestPoint (code + 1) * 2 ^ 179 = k * textStep s := by
    rw [hk, textStep, ← Nat.mul_assoc, Nat.mul_comm k]
  have hbits : m < 2 ^ 25 := by
    have hfits := h.fits
    omega
  obtain ⟨hbelow, habove⟩ := near_of_tie hbits htie
  have hne := h.ne_halfway hm
  rw [hstep] at hbelow habove hne
  have hpos : 0 < k := by
    by_contra hzero
    obtain rfl : k = 0 := by omega
    have hslack : tieSlack s < tieStep s := slack_lt_of_nearMisses hfound
    have hone : tieStep s ≤ m * tieStep s := Nat.le_mul_of_pos_left _ (by omega)
    omega
  have hlast : k ≤ (2 ^ 25 * tieStep s + tieSlack s) / textStep s := by
    have htext : 0 < textStep s := Nat.mul_pos (Nat.pow_pos (by decide)) (Nat.two_pow_pos 179)
    have hmost := Nat.mul_le_mul_right (tieStep s) hbits.le
    exact (Nat.le_div_iff_mul_le htext).2 (by omega)
  exact ⟨k, mem_nearMisses hfound hpos hlast ⟨hbelow, habove, hne⟩⟩

/-- The code whose text reads back as the next. -/
def exception : Nat := 0x15AE43FD

/-- The odd code that a halfway point is next to. -/
def codeBeside (s m : Nat) : Nat := s * 2 ^ 23 + (2 * (m / 4) + 1)

/-- **Of each size, the texts that may end on a halfway point read back**, all but one. -/
lemma settled : ∀ s < 254,
    (tieMisses s).any (·.all fun (m, _) => m % 2 = 0 ||
      rereadCode (codeBeside s m) = codeBeside s m || codeBeside s m = exception) = true := by
  -- one search by division for each size, and the text of each odd code that it comes upon
  decide +kernel

lemma rereadCode_of_ne_exception (hfinite : code + 1 < infinityCode) (hne : code + 1 ≠ exception) :
    rereadCode (code + 1) = code + 1 := by
  by_contra hread
  refine hread (rereadCode_of_not_tie fun hodd => ?_)
  obtain ⟨s, j, h⟩ := exists_isOddCode hodd
  obtain ⟨hlow, hhigh⟩ := h.halfway_eq
  have hsize : s < 254 := by
    obtain ⟨henough, -, hcode⟩ := h
    rw [infinityCode] at hfinite
    omega
  have hapart {m : Nat} (hm : m = 4 * j + 1 ∨ m = 4 * j + 3) :
      m * 2 ^ s * halfUnit ≠ doublePoint (shortestPoint (code + 1)) := by
    intro htie
    have hsettled := settled s hsize
    cases hfound : tieMisses s with
    | none => simp [hfound] at hsettled
    | some found =>
        obtain ⟨k, hmem⟩ := h.mem_tieMisses hfound hm htie
        have hbeside : codeBeside s m = code + 1 := by
          rw [codeBeside, h.code_eq]
          omega
        rw [hfound, Option.any_some] at hsettled
        have hthis := List.all_eq_true.1 hsettled _ hmem
        simp [hbeside, hread, hne] at hthis
        omega
  rw [hlow, hhigh]
  exact ⟨hapart (.inl rfl), hapart (.inr rfl)⟩

lemma rereadCode_exception : rereadCode exception = exception + 1 := by decide +kernel

/-- **The text of every code reads back in double precision, but for one.** -/
theorem rereadCode_eq (hfinite : code + 1 < infinityCode) :
    rereadCode (code + 1) = if code + 1 = exception then exception + 1 else code + 1 := by
  split
  · rename_i hcode
    rw [hcode, rereadCode_exception]
  · rename_i hcode
    exact rereadCode_of_ne_exception hfinite hcode

end Binary32

end SpindleDrive
