import SpindleDrive.Number.Text
import SpindleDrive.Proofs.Number.Nearest

/-!
# The fewest digits

The text of a number is a point of the coarsest decimal grid that meets the interval of all that
rounds to it.  The search for the grid goes through finitely many of them, so it has to be shown
that it finds one, and that what it finds is as coarse as the interval is wide.

* `Rounding.exists_nearestMultiple` — a grid that is finer than an interval is wide meets it.
* `coarsestMultiple_spec` — the search ends no later than at a grid that does.
* `shortestPoint` — the point that is found, measured in the finest grid.
* **`shortestPoint_between`** — it lies between the halfway points around the code.
* `pow_dvd_shortestPoint` — it is a multiple of every power of ten below the width.
-/

namespace SpindleDrive

namespace Binary32

/-! ## The search -/

namespace Rounding

variable {r : Rounding} {step : Nat}

lemma holds_of_nearestMultiple {multiple : Nat} (h : r.nearestMultiple step = some multiple) :
    r.holds (multiple * (step * r.denominator)) = true := by
  simp only [nearestMultiple] at h
  grind

/-- **A grid that is finer than an interval is wide has a point in it**, next to the value. -/
lemma exists_nearestMultiple (low : r.low < r.value) (high : r.value < r.high)
    (stride : 0 < step * r.denominator) (fine : r.low + step * r.denominator < r.high) :
    ∃ multiple, r.nearestMultiple step = some multiple := by
  have hbelow : r.value / (step * r.denominator) * (step * r.denominator) ≤ r.value :=
    Nat.div_mul_le_self ..
  have habove : r.value <
      (r.value / (step * r.denominator) + 1) * (step * r.denominator) :=
    Nat.lt_mul_of_div_lt (Nat.lt_succ_self _) stride
  have hgap : (r.value / (step * r.denominator) + 1) * (step * r.denominator) =
      r.value / (step * r.denominator) * (step * r.denominator) + step * r.denominator :=
    Nat.succ_mul ..
  have heither :
      r.holds (r.value / (step * r.denominator) * (step * r.denominator)) = true ∨
        r.holds ((r.value / (step * r.denominator) + 1) * (step * r.denominator)) = true := by
    by_contra hneither
    rw [not_or] at hneither
    simp only [holds] at hneither
    split at hneither
    · simp at hneither
      omega
    · simp at hneither
      omega
  simp only [nearestMultiple]
  split
  · split
    · exact ⟨_, rfl⟩
    · exact ⟨_, rfl⟩
  split
  · exact ⟨_, rfl⟩
  split
  · exact ⟨_, rfl⟩
  · simp_all

end Rounding

/-- **The search ends no later than at a grid that meets the interval.** -/
lemma coarsestMultiple_spec {r : Rounding} {count finer : Nat} (hfiner : finer < count)
    (hmeets : ∃ multiple, r.nearestMultiple (10 ^ finer) = some multiple) :
    finer ≤ (coarsestMultiple r count).2 ∧ (coarsestMultiple r count).2 < count ∧
      r.nearestMultiple (10 ^ (coarsestMultiple r count).2) =
        some (coarsestMultiple r count).1 := by
  induction count with
  | zero => omega
  | succ place ih =>
      rw [coarsestMultiple]
      cases hthis : r.nearestMultiple (10 ^ place) with
      | some multiple => exact ⟨Nat.le_of_lt_succ hfiner, Nat.lt_succ_self place, hthis⟩
      | none =>
          have hne : finer ≠ place := by
            rintro rfl
            obtain ⟨multiple, hsome⟩ := hmeets
            simp [hthis] at hsome
          obtain ⟨hcoarser, hless, hfound⟩ := ih (by omega)
          exact ⟨hcoarser, Nat.lt_succ_of_lt hless, hfound⟩

/-! ## The interval of a code -/

/-- The point of a code's shortest text, measured in `10 ^ -60`. -/
def shortestPoint (code : Nat) : Nat :=
  let (multiple, place) := coarsestMultiple (roundingInterval code) gridCount
  multiple * 10 ^ place

/-- A power of ten that is less than the interval of a code is wide. -/
def IsFiner (code place : Nat) : Prop :=
  (units code + units (code + 1)) * 10 ^ finestPlaces + 10 ^ place * (2 * unitsPerOne) <
    (units (code + 1) + units (code + 2)) * 10 ^ finestPlaces

variable {code : Nat}

lemma units_lt_succ (code : Nat) : units code < units (code + 1) :=
  magnitude_strictMono 24 (Nat.lt_succ_self code)

lemma isFiner_zero (code : Nat) : IsFiner code 0 := by
  have hthis := units_lt_succ code
  have hnext : units (code + 1) < units (code + 2) := units_lt_succ (code + 1)
  have hwide : (units code + units (code + 1) + 2) * 10 ^ finestPlaces ≤
      (units (code + 1) + units (code + 2)) * 10 ^ finestPlaces :=
    Nat.mul_le_mul_right _ (by omega)
  have hfine : unitsPerOne < 10 ^ finestPlaces := by decide
  rw [Nat.add_mul] at hwide
  rw [IsFiner]
  omega

/-- A fine grid meets the interval of a code. -/
lemma IsFiner.exists_nearestMultiple {place : Nat} (h : IsFiner code place) :
    ∃ multiple, (roundingInterval (code + 1)).nearestMultiple (10 ^ place) = some multiple := by
  have hthis := units_lt_succ code
  have hnext : units (code + 1) < units (code + 2) := units_lt_succ (code + 1)
  have hfine : 0 < 10 ^ finestPlaces := Nat.pow_pos (by decide)
  refine Rounding.exists_nearestMultiple ?_ ?_ ?_ h
  · exact Nat.mul_lt_mul_of_pos_right (show units code + units (code + 1) < _ by omega) hfine
  · exact Nat.mul_lt_mul_of_pos_right (show _ < units (code + 1) + units (code + 2) by omega) hfine
  · exact Nat.mul_pos (Nat.pow_pos (by decide)) (show 0 < 2 * unitsPerOne by decide)

/-- The search finds a point in the interval. -/
lemma shortestDigits_spec (code : Nat) :
    ∃ multiple place : Nat,
      shortestDigits (code + 1) = (multiple, (place : Int) - finestPlaces) ∧
      place < gridCount ∧ shortestPoint (code + 1) = multiple * 10 ^ place ∧
      (roundingInterval (code + 1)).holds
        (shortestPoint (code + 1) * (2 * unitsPerOne)) = true := by
  have hgrids : 0 < gridCount := by decide
  obtain ⟨-, hless, hfound⟩ :=
    coarsestMultiple_spec hgrids (isFiner_zero code).exists_nearestMultiple
  refine ⟨_, _, rfl, hless, rfl, ?_⟩
  rw [shortestPoint, Nat.mul_assoc]
  exact Rounding.holds_of_nearestMultiple hfound

/-- **The point of the shortest text lies between the halfway points around its code**, and is none
of them if the code is odd. -/
theorem shortestPoint_between (code : Nat) :
    ((units code + units (code + 1)) * 10 ^ finestPlaces ≤
          shortestPoint (code + 1) * (2 * unitsPerOne) ∧
        shortestPoint (code + 1) * (2 * unitsPerOne) ≤
          (units (code + 1) + units (code + 2)) * 10 ^ finestPlaces) ∧
      ((code + 1) % 2 = 1 →
        (units code + units (code + 1)) * 10 ^ finestPlaces <
            shortestPoint (code + 1) * (2 * unitsPerOne) ∧
          shortestPoint (code + 1) * (2 * unitsPerOne) <
            (units (code + 1) + units (code + 2)) * 10 ^ finestPlaces) := by
  obtain ⟨-, -, -, -, -, hholds⟩ := shortestDigits_spec code
  simp only [Rounding.holds, roundingInterval, Nat.add_sub_cancel] at hholds
  split at hholds
  · rename_i heven
    simp at heven hholds
    exact ⟨hholds, by omega⟩
  · simp at hholds
    exact ⟨⟨hholds.1.le, hholds.2.le⟩, fun _ => hholds⟩

/-- **The point is as coarse as the interval is wide.** -/
theorem pow_dvd_shortestPoint {place : Nat} (hplace : place < gridCount) (h : IsFiner code place) :
    10 ^ place ∣ shortestPoint (code + 1) := by
  obtain ⟨hcoarser, -, -⟩ := coarsestMultiple_spec hplace h.exists_nearestMultiple
  exact Nat.dvd_mul_left_of_dvd (Nat.pow_dvd_pow 10 hcoarser) _

end Binary32

end SpindleDrive
