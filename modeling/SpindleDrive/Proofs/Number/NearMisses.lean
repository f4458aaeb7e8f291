import Mathlib.Order.Basic
import Mathlib.Tactic.Lemma
import SpindleDrive.Number.Rounding

/-!
# Multiples that nearly meet

Whether a short decimal can come close to a halfway point between two binary numbers is a question
about two progressions: how near can a multiple of one number be to a multiple of another, without
meeting it?  Dividing one number by the other leaves the same question about smaller numbers, as
Euclid's algorithm does, until the multiples that are left can be listed.

* `IsNearMiss` — a multiple of one number close to a multiple of the other.
* `nearMisses` — the list of those up to a last multiple.
* **`mem_nearMisses`** — the list leaves none out.
-/

namespace SpindleDrive

/-- Whether the `k`-fold of `a` is within `slack` of the `m`-fold of `b`, and is not equal to it. -/
structure IsNearMiss (slack a b m k : Nat) : Prop where
  low : k * a ≤ m * b + slack
  high : m * b ≤ k * a + slack
  ne : k * a ≠ m * b

/-- The near misses `(m, k)` with `0 < k ≤ last`, and perhaps other pairs.  There is no list when
the numbers have come down to the slack, nor when the fuel is used up. -/
def nearMisses (slack : Nat) : (fuel a b last : Nat) → Option (List (Nat × Nat))
  | 0, _, _, _ => none
  | fuel + 1, a, b, last =>
    if b ≤ slack then none
    else
      let last' := (last * (a % b) + slack) / b
      if a % b = 0 then some []
      else if last' = 0 then
        some ((List.range (min last (slack / (a % b)) + 1)).map fun k => (k * (a / b), k))
      else
        (nearMisses slack fuel b (a % b) last').map
          (List.map fun (k, m) => (k * (a / b) + m, k))

variable {slack fuel a b last m k : Nat} {found : List (Nat × Nat)}

lemma slack_lt_of_nearMisses (h : nearMisses slack fuel a b last = some found) : slack < b := by
  cases fuel with
  | zero => simp [nearMisses] at h
  | succ fuel =>
      by_contra hsmall
      simp [nearMisses, Nat.not_lt.1 hsmall] at h

namespace IsNearMiss

lemma swap (h : IsNearMiss slack a b m k) : IsNearMiss slack b a k m :=
  ⟨h.high, h.low, h.ne.symm⟩

/-- The multiple of the larger number is at least the quotient times the other. -/
lemma exists_add (h : IsNearMiss slack a b m k) (hslack : slack < b) :
    ∃ m', m = k * (a / b) + m' ∧ IsNearMiss slack (a % b) b m' k := by
  have hsplit : k * a = k * (a / b) * b + k * (a % b) := by
    rw [Nat.mul_assoc, ← Nat.mul_add, Nat.div_add_mod']
  have hmany : k * (a / b) ≤ m := by
    by_contra hfew
    have hless : (m + 1) * b ≤ k * (a / b) * b := Nat.mul_le_mul_right b (by omega)
    have hlow := h.low
    rw [Nat.succ_mul] at hless
    omega
  obtain ⟨m', rfl⟩ := Nat.exists_eq_add_of_le hmany
  obtain ⟨hlow, hhigh, hne⟩ := h
  rw [Nat.add_mul, hsplit] at hlow hhigh hne
  exact ⟨m', rfl, by omega, by omega, by omega⟩

end IsNearMiss

/-- **The list leaves out no near miss.** -/
theorem mem_nearMisses (hfound : nearMisses slack fuel a b last = some found) (hk : 0 < k)
    (hlast : k ≤ last) (h : IsNearMiss slack a b m k) : (m, k) ∈ found := by
  induction fuel generalizing a b last m k found with
  | zero => simp [nearMisses] at hfound
  | succ fuel ih =>
      have hslack := slack_lt_of_nearMisses hfound
      obtain ⟨m', rfl, h'⟩ := h.exists_add hslack
      have hmost : m' ≤ (last * (a % b) + slack) / b := by
        refine (Nat.le_div_iff_mul_le (by omega)).2 (Nat.le_trans h'.high ?_)
        exact Nat.add_le_add_right (Nat.mul_le_mul_right _ hlast) _
      simp only [nearMisses, Nat.not_le.2 hslack, if_false] at hfound
      split at hfound
      · -- the multiples could only meet
        rename_i hexact
        obtain ⟨-, hhigh, hne⟩ := h'
        rw [hexact] at hhigh hne
        obtain rfl | hpos := Nat.eq_zero_or_pos m'
        · simp at hne
        · have hstep : b ≤ m' * b := Nat.le_mul_of_pos_left b hpos
          omega
      rename_i hrest
      split at hfound
      · -- nothing but the remainders is left
        rename_i hnone
        obtain rfl : m' = 0 := by omega
        obtain rfl := Option.some.inj hfound
        have hfew : k ≤ slack / (a % b) :=
          (Nat.le_div_iff_mul_le (by omega)).2 (by simpa using h'.low)
        exact List.mem_map.2 ⟨k, List.mem_range.2 (by omega), rfl⟩
      · obtain ⟨inner, hinner, rfl⟩ := Option.map_eq_some_iff.1 hfound
        have hpos : 0 < m' := by
          by_contra hzero
          obtain rfl : m' = 0 := by omega
          have hlow := h'.low
          have hsmall := slack_lt_of_nearMisses hinner
          have hstep : a % b ≤ k * (a % b) := Nat.le_mul_of_pos_left _ hk
          omega
        exact List.mem_map.2 ⟨(k, m'), ih hinner hpos hmost h'.swap, rfl⟩

end SpindleDrive
