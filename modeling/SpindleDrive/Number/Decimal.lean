import SpindleDrive.Number.Binary32

/-!
# Decimal numbers and how they become speeds

A decimal is a sign, a natural number and a power of ten.  Speeds arrive as decimals by two
routes, and the routes can differ in the last bit:

* `Decimal.toBinary32` — rounded once, as a command line argument is;
* `Decimal.throughBinary64` — rounded to double precision first and to single precision after, as
  a number of a configuration file is.

`Decimal.ofDigits` puts a decimal together from the digits around its point, and `Binary32.ofText`
reads the text of a command line argument.
-/

namespace SpindleDrive

/-- The number `± digits * 10 ^ exponent`. -/
structure Decimal where
  negative : Bool
  digits : Nat
  exponent : Int
  deriving DecidableEq, Repr

/-- The code of infinity in double precision. -/
def doubleInfinityCode : Nat := 2047 * 2 ^ 52

namespace Decimal

/-- The decimal with the given digits before and after its point. -/
def ofDigits (negative : Bool) (whole fraction : List Char) (exponent : Int) : Decimal :=
  ⟨negative, Nat.ofDigitChars 10 (whole ++ fraction) 0, exponent - fraction.length⟩

/-! ## Rounding

Both formats hold magnitudes between `10 ^ -400` and `10 ^ 400` with room to spare, so a decimal
outside is zero or too large whatever its digits are, and no power of ten beyond is ever formed.
-/

/-- The place of the leading digit, counted from the point. -/
def leadingPlace (x : Decimal) : Int :=
  (Nat.toDigits 10 x.digits).length + x.exponent

/-- The code nearest to a decimal when `p` bits are significant and `2 ^ scale` units make one;
`tooLarge` stands for every decimal past all formats. -/
def code (p scale tooLarge : Nat) (x : Decimal) : Nat :=
  if x.digits = 0 then 0
  else if 400 < x.leadingPlace then tooLarge
  else if x.leadingPlace < -400 then 0
  else if 0 ≤ x.exponent then
    nearestCode p (x.digits * 10 ^ x.exponent.toNat * 2 ^ scale) 1
  else
    nearestCode p (x.digits * 2 ^ scale) (10 ^ (-x.exponent).toNat)

def toBinary32 (x : Decimal) : Binary32 :=
  Binary32.ofCode x.negative (x.code 24 149 infinityCode)

/-- The double precision code nearest to a decimal; `doubleInfinityCode` or more is infinity. -/
def doubleCode (x : Decimal) : Nat :=
  x.code 53 1074 doubleInfinityCode

def overflowsDouble (x : Decimal) : Bool :=
  decide (doubleInfinityCode ≤ x.doubleCode)

/-- The decimal rounded to double precision and from there to single precision. -/
def throughBinary64 (x : Decimal) : Binary32 :=
  if x.overflowsDouble then Binary32.ofCode x.negative infinityCode
  else Binary32.ofQuotient x.negative (magnitude 53 x.doubleCode) (2 ^ (1074 - 149))

end Decimal

/-! ## The text of a number

An optional sign, then digits with at most one point among them and at least one digit, then an
optional exponent; or the name of infinity or of NaN in any mixture of cases.
-/

namespace Binary32

/-- Splits an optional sign off; `true` is minus. -/
def splitSign : List Char → Bool × List Char
  | '-' :: rest => (true, rest)
  | '+' :: rest => (false, rest)
  | rest => (false, rest)

/-- The exponent that the rest of a number gives: none is zero, an `e` wants digits. -/
def readExponent : List Char → Option Int
  | [] => some 0
  | c :: rest =>
    if c = 'e' ∨ c = 'E' then
      let (negative, digits) := splitSign rest
      if digits ≠ [] ∧ digits.all Char.isDigit then
        let magnitude : Nat := Nat.ofDigitChars 10 digits 0
        some (if negative then -(magnitude : Int) else magnitude)
      else none
    else none

/-- Reads the digits, the point and the exponent of a decimal. -/
def readDecimal (negative : Bool) (text : List Char) : Option Decimal :=
  let whole := text.takeWhile Char.isDigit
  let rest := text.dropWhile Char.isDigit
  let (fraction, rest) :=
    match rest with
    | '.' :: rest => (rest.takeWhile Char.isDigit, rest.dropWhile Char.isDigit)
    | rest => ([], rest)
  if whole = [] ∧ fraction = [] then none
  else (readExponent rest).map (Decimal.ofDigits negative whole fraction)

/-- Reads the text of a number, rounding once. -/
def ofText (text : String) : Option Binary32 :=
  let (negative, body) := splitSign text.toList
  let lower := body.map Char.toLower
  if lower = "inf".toList ∨ lower = "infinity".toList then some (ofCode negative infinityCode)
  else if lower = "nan".toList then some nan
  else (readDecimal negative body).map Decimal.toBinary32

end Binary32

end SpindleDrive
