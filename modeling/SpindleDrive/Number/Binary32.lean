import SpindleDrive.Number.Rounding

/-!
# Single precision speeds

Speeds, tolerances and scale factors are binary32 numbers, and a register code can hang on their
last bit.  This file gives the type exactly, so that every operation can be computed with and
reasoned about: a value is a sign and the code of its magnitude, and each operation is one
rounding of an exact result.

* `Binary32` — one NaN, and otherwise a sign with a code up to that of infinity.
* `Binary32.ofQuotient` — the nearest value to a quotient of units, the units being `2 ^ -149`.
* `Binary32.add`, `sub`, `mul`, `div`, `round` — the operations, ties to even; `round` goes to the
  nearest integer, halves away from zero.
* `Binary32.le`, `lt` — the comparisons: NaN is unordered, the two zeros are equal.
* `Binary32.ofBits`, `toBits` — the interchange encoding.

The payload and the sign of a NaN are not kept: nothing that the driver does can show them.
-/

namespace SpindleDrive

/-- The code of infinity, one past the largest finite code. -/
def infinityCode : Nat := 0x7F800000

/-- A binary32 number: NaN, or a sign with the code of a magnitude. -/
inductive Binary32 where
  | nan
  | signed (negative : Bool) (code : Nat) (code_le : code ≤ infinityCode)
  deriving DecidableEq, Repr

namespace Binary32

/-! ## Construction -/

/-- The value with a sign and a code, every code past infinity's being infinity. -/
def ofCode (negative : Bool) (code : Nat) : Binary32 :=
  signed negative (min code infinityCode) (Nat.min_le_right ..)

def zero : Binary32 := ofCode false 0
def infinity : Binary32 := ofCode false infinityCode

instance : Inhabited Binary32 := ⟨zero⟩

/-- The units of `2 ^ -149` in one. -/
def unitsPerOne : Nat := 2 ^ 149

/-- The value nearest to `n / d` units, with the given sign. -/
def ofQuotient (negative : Bool) (n d : Nat) : Binary32 :=
  ofCode negative (nearestCode 24 n d)

/-- The value nearest to a natural number. -/
def ofNat (n : Nat) : Binary32 :=
  ofQuotient false (n * unitsPerOne) 1

/-- The value nearest to an integer; zero is positive. -/
def ofInt (i : Int) : Binary32 :=
  ofQuotient (decide (i < 0)) (i.natAbs * unitsPerOne) 1

/-- Reads the interchange encoding: the top bit is the sign, the others are the code, and codes
past infinity's are NaN. -/
def ofBits (bits : UInt32) : Binary32 :=
  let code := bits.toNat % 2 ^ 31
  if infinityCode < code then nan else ofCode (decide (2 ^ 31 ≤ bits.toNat)) code

/-- The interchange encoding. -/
def toBits : Binary32 → UInt32
  | nan => 0x7FC00000
  | signed negative code _ => UInt32.ofNat (code + if negative then 2 ^ 31 else 0)

/-! ## Kinds of value -/

def isNaN : Binary32 → Bool
  | nan => true
  | signed .. => false

def isFinite : Binary32 → Bool
  | nan => false
  | signed _ code _ => decide (code < infinityCode)

/-- Either zero. -/
def isZero : Binary32 → Bool
  | nan => false
  | signed _ code _ => decide (code = 0)

/-! ## Order

Codes are ordered like magnitudes, so a code with its sign is the place of a value in the order.
-/

/-- The place of a number in the order; the two zeros share one. -/
def place (negative : Bool) (code : Nat) : Int :=
  if negative then -code else code

/-- Whether both are numbers and the first is at most the second. -/
def le : Binary32 → Binary32 → Bool
  | signed s a _, signed t b _ => decide (place s a ≤ place t b)
  | _, _ => false

def lt : Binary32 → Binary32 → Bool
  | signed s a _, signed t b _ => decide (place s a < place t b)
  | _, _ => false

/-- Whether a value is a number above zero. -/
def isPositive (x : Binary32) : Bool := lt zero x

/-- Whether a value is a number not below zero. -/
def isNonneg (x : Binary32) : Bool := le zero x

/-- The value itself above zero, and zero otherwise: the larger of the value and zero, a NaN
giving way. -/
def clampBelow (x : Binary32) : Binary32 :=
  if x.isPositive then x else zero

/-- The smaller of two values, a NaN giving way to the other. -/
def smaller (x y : Binary32) : Binary32 :=
  if x.isNaN then y
  else if lt y x then y
  else x

/-! ## Arithmetic -/

def units (code : Nat) : Nat := magnitude 24 code

def neg : Binary32 → Binary32
  | nan => nan
  | signed negative code h => signed (!negative) code h

instance : Neg Binary32 := ⟨neg⟩

/-- The exact sum of two finite magnitudes with signs, in units. -/
def unitSum (s : Bool) (a : Nat) (t : Bool) (b : Nat) : Int :=
  (if s then -(units a : Int) else units a) + (if t then -(units b : Int) else units b)

/-- The rounded sum.  Opposite infinities have none; a sum that cancels is the positive zero. -/
def add : Binary32 → Binary32 → Binary32
  | signed s a _, signed t b _ =>
    if a = infinityCode then
      if b = infinityCode ∧ s ≠ t then nan else ofCode s a
    else if b = infinityCode then ofCode t b
    else
      let total := unitSum s a t b
      let negative := if total = 0 then s && t else decide (total < 0)
      ofQuotient negative total.natAbs 1
  | _, _ => nan

def sub (x y : Binary32) : Binary32 := add x (-y)

/-- The rounded product.  Zero times infinity has none. -/
def mul : Binary32 → Binary32 → Binary32
  | signed s a _, signed t b _ =>
    let negative := s != t
    if a = infinityCode ∨ b = infinityCode then
      if a = 0 ∨ b = 0 then nan else ofCode negative infinityCode
    else ofQuotient negative (units a * units b) unitsPerOne
  | _, _ => nan

/-- The rounded quotient.  Zero by zero and infinity by infinity have none; all else by zero is
infinite. -/
def div : Binary32 → Binary32 → Binary32
  | signed s a _, signed t b _ =>
    let negative := s != t
    if a = infinityCode then
      if b = infinityCode then nan else ofCode negative infinityCode
    else if b = infinityCode then ofCode negative 0
    else if b = 0 then
      if a = 0 then nan else ofCode negative infinityCode
    else ofQuotient negative (units a * unitsPerOne) (units b)
  | _, _ => nan

instance : Add Binary32 := ⟨add⟩
instance : Sub Binary32 := ⟨sub⟩
instance : Mul Binary32 := ⟨mul⟩
instance : Div Binary32 := ⟨div⟩

/-- The nearest integral value, halves going away from zero; the sign stays, also on zero. -/
def round : Binary32 → Binary32
  | nan => nan
  | signed negative code h =>
    if code = infinityCode then signed negative code h
    else ofQuotient negative ((units code + unitsPerOne / 2) / unitsPerOne * unitsPerOne) 1

/-- The integral part as a 16-bit word: what is too large becomes the largest word, what is
negative or no number becomes zero. -/
def toUInt16 : Binary32 → UInt16
  | nan => 0
  | signed true _ _ => 0
  | signed false code _ =>
    if code = infinityCode then 0xFFFF
    else UInt16.ofNat (min (units code / unitsPerOne) 0xFFFF)

/-! ## Small laws -/

/-- A NaN and everything not above zero clamp to the positive zero. -/
theorem clampBelow_of_not_isPositive {x : Binary32} (h : x.isPositive = false) :
    x.clampBelow = zero := by
  simp [clampBelow, h]

end Binary32

end SpindleDrive
