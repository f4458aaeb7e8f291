/-!
# Rounding to a binary grid

A binary floating point format with `p` significant bits numbers its magnitudes in order: the
*code* `0` is zero, `1` the smallest magnitude, and so on without gaps.  Measured in units of the
smallest magnitude, every code stands for a natural number, and rounding a quotient is finding the
code whose number is nearest.  The order of the codes is the order of the magnitudes, so most
questions about rounded arithmetic become questions about natural numbers.

* `divideEven` — the integer nearest to a quotient, a tie going to the even one.
* `magnitude` — the number of units that a code stands for.
* `nearestCode` — the code nearest to a quotient of units, a tie going to the even code.

Neither knows a largest code: a format cuts its codes off where its infinity begins.
-/

-- A power of two is the core library's own, also where a theory of monoids offers another one.
attribute [instance (2000), default_instance (20000)] instPowNat

namespace SpindleDrive

/-- The integer nearest to `n / d`; of two equally near, the even one. -/
def divideEven (n d : Nat) : Nat :=
  let q := n / d
  let r := n % d
  if 2 * r < d then q
  else if d < 2 * r then q + 1
  else q + q % 2

/-- The units that a code stands for when `p` bits are significant.  Below `2 ^ (p - 1)` a code
counts units; above it every further block of `2 ^ (p - 1)` codes is twice as coarse. -/
def magnitude (p code : Nat) : Nat :=
  let block := 2 ^ (p - 1)
  if code < block then code
  else (block + code % block) * 2 ^ (code / block - 1)

/-- The code nearest to `n / d` units, `p` bits being significant.  The quotient is measured in
the coarsest step that still leaves `p` bits, and rounded there; a carry into the next block
lands on that block's first code by itself. -/
def nearestCode (p n d : Nat) : Nat :=
  let q := n / d
  let shift := if q < 2 ^ p then 0 else Nat.log2 q - (p - 1)
  shift * 2 ^ (p - 1) + divideEven n (d * 2 ^ shift)

/-- An exact quotient is its own nearest integer. -/
theorem divideEven_mul_right (q d : Nat) (hd : 0 < d) : divideEven (q * d) d = q := by
  simp [divideEven, Nat.mul_div_cancel q hd, hd]

/-- The nearest integer is the floor or the next integer. -/
theorem divideEven_eq_or (n d : Nat) : divideEven n d = n / d ∨ divideEven n d = n / d + 1 := by
  unfold divideEven
  dsimp only
  split
  · exact Or.inl rfl
  · split
    · exact Or.inr rfl
    · omega

end SpindleDrive
