import Mathlib.Data.List.TakeWhile
import Mathlib.Tactic.Lemma
import SpindleDrive.Toml.Scalar

/-!
# Reading plain numbers

What is written without quotes is read as one of a dozen things.  This file follows the two that
matter to written numbers: a numeral, and a numeral with a point and more digits.  Neither can be
mistaken for a moment, because a date has a dash and a time a colon.

* `IsDigits`, `IsNumeral` — runs of digits, and those that a whole number may have.
* `isNumeral_toDigits` — the digits of a number are a numeral.
* `afterDate_eq_none`, `afterTime_eq_none` — what cannot be a moment.
* **`scalar?_numeral`**, **`scalar?_point`** — what the two are read as.
-/

namespace SpindleDrive

namespace Toml

/-- Characters of two kinds are different. -/
lemma ne_of_kind {kind : Char → Bool} {c d : Char} (hc : kind c = true) (hd : kind d = false) :
    c ≠ d :=
  ne_of_apply_ne kind (by rw [hc, hd]; decide)

/-! ## Digits -/

/-- One digit or more, and nothing else. -/
structure IsDigits (digits : List Char) : Prop where
  ne_nil : digits ≠ []
  isDigit : ∀ c ∈ digits, c.isDigit = true

/-- Digits that a whole number may have: a zero stands alone. -/
structure IsNumeral (digits : List Char) : Prop extends IsDigits digits where
  leading : ∀ c rest, digits ≠ '0' :: c :: rest

lemma digitRun_eq {digits : List Char} (h : IsDigits digits) :
    digitRun Char.isDigit digits = some digits := by
  obtain ⟨hne, hdigit⟩ := h
  induction digits with
  | nil => contradiction
  | cons c rest ih =>
      have hc : c.isDigit = true := hdigit c (List.mem_cons_self ..)
      cases rest with
      | nil => simp [digitRun, hc]
      | cons d rest =>
          have hd : d ≠ '_' := by
            rintro rfl
            exact absurd (hdigit '_' (by simp)) (by decide)
          have hrest := ih (by simp) fun x hx => hdigit x (List.mem_cons_of_mem c hx)
          simp [digitRun, hc, hd, hrest]

lemma wholeDigits_eq {digits : List Char} (h : IsNumeral digits) :
    wholeDigits digits = some digits := by
  simp only [wholeDigits, digitRun_eq h.toIsDigits]
  simp only [Option.bind_eq_bind, Option.bind_some]
  split
  · rename_i hzero
    exact absurd rfl (h.leading _ _)
  · rfl

/-- The first digit of a number above zero is none. -/
lemma head_toDigits_ne_zero (n : Nat) (hn : 0 < n) (rest : List Char) :
    Nat.toDigits 10 n ≠ '0' :: rest := by
  induction n using Nat.strongRecOn generalizing rest with
  | ind n ih =>
      obtain hless | hmore := Nat.lt_or_ge n 10
      · rw [Nat.toDigits_of_lt_base hless]
        have hdigit : ∀ m < 10, 0 < m → m.digitChar ≠ '0' := by decide
        simp [hdigit n hless hn]
      · rw [Nat.toDigits_of_base_le (by decide) hmore]
        cases hinit : Nat.toDigits 10 (n / 10) with
        | nil => exact absurd hinit Nat.toDigits_ne_nil
        | cons c more =>
            rintro ⟨⟩
            exact ih (n / 10) (by omega) (by omega) more hinit

lemma isNumeral_toDigits (n : Nat) : IsNumeral (Nat.toDigits 10 n) where
  ne_nil := Nat.toDigits_ne_nil
  isDigit _ hc := Nat.isDigit_of_mem_toDigits (by decide) (by decide) hc
  leading c rest := by
    obtain rfl | hn := Nat.eq_zero_or_pos n
    · simp
    · exact head_toDigits_ne_zero n hn _

/-! ## Moments -/

lemma exists_of_twoDigits {low high n : Nat} {text rest : List Char}
    (h : twoDigits low high text = some (n, rest)) : ∃ a b, text = a :: b :: rest := by
  match text with
  | [] | [_] => simp [twoDigits] at h
  | a :: b :: more =>
      simp [twoDigits] at h
      exact ⟨a, b, by simp [h.2]⟩

/-- A date has a dash. -/
lemma afterDate_eq_none {text : List Char} (h : '-' ∉ text) : afterDate text = none := by
  by_contra hsome
  obtain ⟨rest, hrest⟩ := Option.ne_none_iff_exists'.1 hsome
  simp only [afterDate, Option.bind_eq_bind, Option.bind_eq_some_iff] at hrest
  obtain ⟨⟨century, text₁⟩, h₁, ⟨year, text₂⟩, h₂, hrest⟩ := hrest
  obtain ⟨a, b, rfl⟩ := exists_of_twoDigits h₁
  obtain ⟨c, d, rfl⟩ := exists_of_twoDigits h₂
  split at hrest
  · rename_i hdash
    obtain rfl : text₂ = '-' :: _ := hdash
    simp at h
  · simp at hrest

/-- A time has a colon. -/
lemma afterTime_eq_none {text : List Char} (h : ':' ∉ text) : afterTime text = none := by
  by_contra hsome
  obtain ⟨rest, hrest⟩ := Option.ne_none_iff_exists'.1 hsome
  simp only [afterTime, Option.bind_eq_bind, Option.bind_eq_some_iff] at hrest
  obtain ⟨⟨hour, text₁⟩, h₁, hrest⟩ := hrest
  obtain ⟨a, b, rfl⟩ := exists_of_twoDigits h₁
  split at hrest
  · rename_i hcolon
    obtain rfl : text₁ = ':' :: _ := hcolon
    simp at h
  · simp at hrest

lemma isMoment_eq_false {text : List Char} (hdash : '-' ∉ text) (hcolon : ':' ∉ text) :
    isMoment text = false := by
  simp [isMoment, isDate, afterDate_eq_none hdash, afterTime_eq_none hcolon]

/-! ## Numbers -/

/-- What begins with a digit, and goes on without the letters of other bases and the signs of
moments, is a number. -/
lemma scalar?_eq_number? {d : Char} {text : List Char} (hd : d.isDigit = true)
    (hrest : ∀ c ∈ text, c.isDigit = true ∨ c = '.') :
    scalar? (d :: text) = number? false (d :: text) := by
  have hne (c : Char) (hc : c.isDigit = false) : d ≠ c := ne_of_kind hd hc
  have habsent (c : Char) (hc : c.isDigit = false) (hpoint : c ≠ '.') : c ∉ text := by
    intro hmem
    obtain hdigit | hpoint' := hrest c hmem
    · exact absurd hdigit (by simp [hc])
    · exact hpoint hpoint'
  have hmoment : isMoment (d :: text) = false := by
    refine isMoment_eq_false ?_ ?_
    · simp [(hne '-' rfl).symm, habsent '-' rfl (by decide)]
    · simp [(hne ':' rfl).symm, habsent ':' rfl (by decide)]
  have hsign : Binary32.splitSign (d :: text) = (false, d :: text) := by
    simp [Binary32.splitSign, hne '-' rfl, hne '+' rfl]
  have hbase (c : Char) (hc : c.isDigit = false) (hpoint : c ≠ '.') (more : List Char) :
      d :: text = '0' :: c :: more → False := by
    intro hequal
    obtain ⟨-, rfl⟩ := List.cons.inj hequal
    exact habsent c hc hpoint (List.mem_cons_self ..)
  rw [scalar?, if_neg (by simp [hne 't' rfl]), if_neg (by simp [hne 'f' rfl])]
  · rw [hmoment, if_neg Bool.false_ne_true, signedNumber?, hsign]
    dsimp only
    rw [if_neg (by simp [hne 'i' rfl]), if_neg (by simp [hne 'n' rfl])]
  · exact hbase 'x' rfl (by decide)
  · exact hbase 'o' rfl (by decide)
  · exact hbase 'b' rfl (by decide)

lemma number?_numeral {digits : List Char} (h : IsNumeral digits) :
    number? false digits = integer? (Nat.ofDigitChars 10 digits 0) := by
  have hrun : ∀ c ∈ digits, (c.isDigit || decide (c = '_')) = true := by
    intro c hc
    simp [h.isDigit c hc]
  rw [number?, List.takeWhile_eq_self_iff.2 hrun, List.dropWhile_eq_nil_iff.2 hrun,
    wholeDigits_eq h, Option.bind_eq_bind, Option.bind_some]
  dsimp only
  rw [if_neg Bool.false_ne_true]

lemma number?_point {whole fraction : List Char} (hwhole : IsNumeral whole)
    (hfraction : IsDigits fraction) :
    number? false (whole ++ '.' :: fraction) =
      finite? (.ofDigits false whole fraction 0) := by
  have hrun {digits : List Char} (h : IsDigits digits) :
      ∀ c ∈ digits, (c.isDigit || decide (c = '_')) = true := by
    intro c hc
    simp [h.isDigit c hc]
  have htake : ('.' :: fraction).takeWhile (fun c => c.isDigit || decide (c = '_')) = [] := by
    simp
  have hdrop : ('.' :: fraction).dropWhile (fun c => c.isDigit || decide (c = '_')) =
      '.' :: fraction := by
    simp
  simp only [number?, List.takeWhile_append_of_pos (hrun hwhole.toIsDigits), htake, hdrop,
    List.dropWhile_append_of_pos (hrun hwhole.toIsDigits), List.append_nil, wholeDigits_eq hwhole,
    List.takeWhile_eq_self_iff.2 (hrun hfraction), List.dropWhile_eq_nil_iff.2 (hrun hfraction),
    digitRun_eq hfraction, Option.bind_eq_bind, Option.bind_some]

/-- **A numeral is an integer.** -/
theorem scalar?_numeral {digits : List Char} (h : IsNumeral digits) :
    scalar? digits = integer? (Nat.ofDigitChars 10 digits 0) := by
  obtain ⟨d, rest, rfl⟩ := List.exists_cons_of_ne_nil h.ne_nil
  rw [scalar?_eq_number? (h.isDigit d (List.mem_cons_self ..)), number?_numeral h]
  exact fun c hc => .inl (h.isDigit c (List.mem_cons_of_mem d hc))

/-- **A numeral with a point and digits after it is a decimal.** -/
theorem scalar?_point {whole fraction : List Char} (hwhole : IsNumeral whole)
    (hfraction : IsDigits fraction) :
    scalar? (whole ++ '.' :: fraction) = finite? (.ofDigits false whole fraction 0) := by
  rw [← number?_point hwhole hfraction]
  obtain ⟨d, rest, rfl⟩ := List.exists_cons_of_ne_nil hwhole.ne_nil
  refine scalar?_eq_number? (hwhole.isDigit d (List.mem_cons_self ..)) fun c hc => ?_
  obtain hc | hc := List.mem_append.1 hc
  · exact .inl (hwhole.isDigit c (List.mem_cons_of_mem d hc))
  · obtain rfl | hc := List.mem_cons.1 hc
    · exact .inr rfl
    · exact .inl (hfraction.isDigit c hc)

end Toml

end SpindleDrive
