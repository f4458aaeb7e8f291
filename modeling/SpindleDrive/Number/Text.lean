import SpindleDrive.Number.Binary32

/-!
# Writing a speed

Two texts of a binary32 number are in use.

* `Binary32.toText` — the fewest digits that read back as the same number, never with an exponent;
  an integral number has no point.
* `Binary32.toFixed` — a given number of places after the point, the exact value rounded to them,
  a tie going to the even digit.

For the first, the numbers that round to the given one form an interval, and the text is the point
of the coarsest decimal grid that meets the interval; of several points on that grid the nearest is
taken, and of two equally near the larger.
-/

namespace SpindleDrive

namespace Binary32

/-! ## The fewest digits -/

/-- The finest grid tried is that of `10 ^ -60`; it meets every interval, because the smallest
step of the format is above `10 ^ -45`. -/
def finestPlaces : Nat := 60

/-- The grids tried reach from `10 ^ -60` up to `10 ^ 40`, above the largest number. -/
def gridCount : Nat := 101

/-- The interval of the numbers that round to a code, and the number itself, over a common
denominator.  An end belongs to the interval when the tie there goes to this code. -/
structure Rounding where
  low : Nat
  value : Nat
  high : Nat
  denominator : Nat
  closed : Bool

/-- The interval of a code that is neither zero nor infinity, measured in `10 ^ -60`. -/
def roundingInterval (code : Nat) : Rounding :=
  let fine := 10 ^ finestPlaces
  { low := (units (code - 1) + units code) * fine
    value := 2 * units code * fine
    high := (units code + units (code + 1)) * fine
    denominator := 2 * unitsPerOne
    closed := code % 2 = 0 }

/-- Whether a multiple of the grid step, given in the denominator's parts, is in the interval. -/
def Rounding.holds (r : Rounding) (point : Nat) : Bool :=
  if r.closed then decide (r.low ≤ point) && decide (point ≤ r.high)
  else decide (r.low < point) && decide (point < r.high)

/-- The multiple of `step` in the interval that is nearest to the value, if there is one: the value
lies between two neighbouring multiples, and if any multiple is in the interval, one of them is. -/
def Rounding.nearestMultiple (r : Rounding) (step : Nat) : Option Nat :=
  let stride := step * r.denominator
  let below := r.value / stride
  let above := below + 1
  let belowHeld := r.holds (below * stride)
  let aboveHeld := r.holds (above * stride)
  if belowHeld && aboveHeld then
    if r.value - below * stride < above * stride - r.value then some below else some above
  else if belowHeld then some below
  else if aboveHeld then some above
  else none

/-- Tries the grids from `10 ^ (count - 1 - 60)` down; gives the multiple with its grid. -/
def coarsestMultiple (r : Rounding) : Nat → Nat × Nat
  | 0 => (0, 0)
  | place + 1 =>
    match r.nearestMultiple (10 ^ place) with
    | some multiple => (multiple, place)
    | none => coarsestMultiple r place

/-- The digits and the decimal exponent of a code's shortest text. -/
def shortestDigits (code : Nat) : Nat × Int :=
  let (multiple, place) := coarsestMultiple (roundingInterval code) gridCount
  (multiple, (place : Int) - finestPlaces)

/-! ## Positional notation -/

/-- The digits of `n / 10 ^ places`, at least one before the point. -/
def positional (n places : Nat) : String :=
  if places = 0 then toString n
  else
    let digits := Nat.toDigits 10 n
    let padded := List.replicate (places + 1 - digits.length) '0' ++ digits
    let whole := padded.take (padded.length - places)
    let fraction := padded.drop (padded.length - places)
    String.ofList (whole ++ '.' :: fraction)

/-- The shortest text of a code without its sign. -/
def codeText (code : Nat) : String :=
  if code = 0 then "0"
  else if code = infinityCode then "inf"
  else
    let (digits, exponent) := shortestDigits code
    if 0 ≤ exponent then toString (digits * 10 ^ exponent.toNat)
    else positional digits (-exponent).toNat

/-- The fewest digits that read back, without an exponent. -/
def toText : Binary32 → String
  | nan => "NaN"
  | signed negative code _ => (if negative then "-" else "") ++ codeText code

/-- The text with the given number of places after the point. -/
def toFixed (places : Nat) : Binary32 → String
  | nan => "NaN"
  | signed negative code _ =>
    (if negative then "-" else "") ++
      if code = infinityCode then "inf"
      else positional (divideEven (units code * 10 ^ places) unitsPerOne) places

end Binary32

end SpindleDrive
