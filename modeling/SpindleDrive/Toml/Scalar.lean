import SpindleDrive.Toml.Quoted
import SpindleDrive.Toml.Value

/-!
# TOML numbers, truth values and dates

What stands without quotes is a run of letters, digits and the signs that numbers and dates are
made of, and is one of

* a truth value;
* an integer, decimal with a sign or hexadecimal, octal or binary without;
* a number with a point or an exponent, or `inf` or `nan` with or without a sign;
* a date, a time, or both.

Underscores may stand between digits.  An integer has at most 128 bits, and a number with a point
must not be too large for double precision.
-/

namespace SpindleDrive

namespace Toml

/-- The characters of unquoted values. -/
def isScalarChar (c : Char) : Bool :=
  c.isAlphanum || c = '+' || c = '-' || c = '_' || c = '.' || c = ':'

/-! ## Digits -/

/-- The digits of a run in which single underscores may stand between digits. -/
def digitRun (isDigit : Char → Bool) : List Char → Option (List Char)
  | [] => none
  | [c] => if isDigit c then some [c] else none
  | c :: '_' :: rest => if isDigit c then (digitRun isDigit rest).map (c :: ·) else none
  | c :: rest => if isDigit c then (digitRun isDigit rest).map (c :: ·) else none

/-- The digits of a decimal whole number, which has no zero in front of another digit. -/
def wholeDigits (text : List Char) : Option (List Char) := do
  let digits ← digitRun Char.isDigit text
  match digits with
  | '0' :: _ :: _ => none
  | _ => some digits

/-- The number of digits in a base. -/
def valueInBase (base : Nat) (digits : List Char) : Nat :=
  digits.foldl (fun n c => n * base + (hexValue? c).getD 0) 0

/-- Accepts an integer of 128 bits, with or without a sign. -/
def integer? (i : Int) : Option TomlValue :=
  if -2 ^ 127 ≤ i ∧ i < 2 ^ 128 then some (.integer i) else none

/-- Reads an integer in another base than ten. -/
def integerInBase (base : Nat) (isDigit : Char → Bool) (text : List Char) : Option TomlValue := do
  let digits ← digitRun isDigit text
  integer? (valueInBase base digits)

/-! ## Numbers -/

/-- Reads an exponent, which may have a sign. -/
def exponent? (text : List Char) : Option Int := do
  let (negative, digits) := Binary32.splitSign text
  let digits ← digitRun Char.isDigit digits
  let n : Int := Nat.ofDigitChars 10 digits 0
  return if negative then -n else n

/-- Accepts a decimal that is not too large for double precision. -/
def finite? (x : Decimal) : Option TomlValue :=
  if x.overflowsDouble then none else some (.float (.finite x))

/-- Reads a decimal number after its sign: an integer, unless a point or an exponent follows. -/
def number? (negative : Bool) (text : List Char) : Option TomlValue := do
  let inDigits (c : Char) : Bool := c.isDigit || c = '_'
  let whole ← wholeDigits (text.takeWhile inDigits)
  match text.dropWhile inDigits with
  | [] =>
    let n : Int := Nat.ofDigitChars 10 whole 0
    integer? (if negative then -n else n)
  | '.' :: rest =>
    let fraction ← digitRun Char.isDigit (rest.takeWhile inDigits)
    let exponent ←
      match rest.dropWhile inDigits with
      | [] => some 0
      | c :: rest => if c = 'e' ∨ c = 'E' then exponent? rest else none
    finite? (.ofDigits negative whole fraction exponent)
  | c :: rest =>
    if c = 'e' ∨ c = 'E' then
      let exponent ← exponent? rest
      finite? (.ofDigits negative whole [] exponent)
    else none

/-- Reads a number with the names that stand for what is none. -/
def signedNumber? (text : List Char) : Option TomlValue :=
  let (negative, body) := Binary32.splitSign text
  if body = "inf".toList then some (.float (.infinite negative))
  else if body = "nan".toList then some (.float .nan)
  else number? negative body

/-! ## Dates and times -/

/-- Reads two digits that make a number between two bounds. -/
def twoDigits (low high : Nat) : List Char → Option (WithRest Nat)
  | a :: b :: rest =>
    let n := Nat.ofDigitChars 10 [a, b] 0
    if a.isDigit && b.isDigit && decide (low ≤ n) && decide (n ≤ high) then some (n, rest) else none
  | _ => none

def daysIn (year month : Nat) : Nat :=
  if month = 2 then
    if year % 4 = 0 ∧ (year % 100 ≠ 0 ∨ year % 400 = 0) then 29 else 28
  else if month = 4 ∨ month = 6 ∨ month = 9 ∨ month = 11 then 30
  else 31

/-- Passes over a date; gives what follows. -/
def afterDate (text : List Char) : Option (List Char) := do
  let (century, text) ← twoDigits 0 99 text
  let (year, text) ← twoDigits 0 99 text
  let '-' :: text := text | none
  let (month, text) ← twoDigits 1 12 text
  let '-' :: text := text | none
  let (_, text) ← twoDigits 1 (daysIn (century * 100 + year) month) text
  return text

/-- Passes over the fraction of a second, if there is one. -/
def afterFraction : List Char → Option (List Char)
  | '.' :: c :: rest => if c.isDigit then some (rest.dropWhile Char.isDigit) else none
  | '.' :: [] => none
  | text => some text

/-- Passes over a time, whose seconds may be left out. -/
def afterTime (text : List Char) : Option (List Char) := do
  let (_, text) ← twoDigits 0 23 text
  let ':' :: text := text | none
  let (_, text) ← twoDigits 0 59 text
  match text with
  | ':' :: text =>
    let (_, text) ← twoDigits 0 60 text
    afterFraction text
  | text => some text

/-- Passes over a distance to universal time, if there is one. -/
def afterOffset : List Char → Option (List Char)
  | [] => some []
  | c :: rest =>
    if c = 'Z' ∨ c = 'z' then some rest
    else if c = '+' ∨ c = '-' then do
      let (_, rest) ← twoDigits 0 23 rest
      let ':' :: rest := rest | none
      let (_, rest) ← twoDigits 0 59 rest
      return rest
    else none

/-- Whether a text is a time with or without a distance to universal time. -/
def isTimeWithOffset (text : List Char) : Bool :=
  (afterTime text >>= afterOffset) = some []

def isDate (text : List Char) : Bool := afterDate text = some []

/-- Whether a text is a date, a time, or a date with a time after the letter T. -/
def isMoment (text : List Char) : Bool :=
  isDate text || afterTime text = some [] ||
    match afterDate text with
    | some (c :: rest) => (c = 'T' || c = 't') && isTimeWithOffset rest
    | _ => false

/-! ## All together -/

/-- The value of an unquoted run. -/
def scalar? (text : List Char) : Option TomlValue :=
  if text = "true".toList then some (.flag true)
  else if text = "false".toList then some (.flag false)
  else
    match text with
    | '0' :: 'x' :: digits => integerInBase 16 (fun c => (hexValue? c).isSome) digits
    | '0' :: 'o' :: digits => integerInBase 8 (fun c => '0' ≤ c && c ≤ '7') digits
    | '0' :: 'b' :: digits => integerInBase 2 (fun c => c = '0' || c = '1') digits
    | _ => if isMoment text then some .moment else signedNumber? text

/-- Reads an unquoted value.  One blank may stand between a date and a time. -/
def readScalar (text : List Char) : Option (WithRest TomlValue) :=
  let run := text.takeWhile isScalarChar
  let rest := text.dropWhile isScalarChar
  match rest with
  | ' ' :: c :: more =>
    if isDate run && c.isDigit then
      let time := (c :: more).takeWhile isScalarChar
      if isTimeWithOffset time then some (.moment, (c :: more).dropWhile isScalarChar) else none
    else (scalar? run).map (·, rest)
  | _ => (scalar? run).map (·, rest)

end Toml

end SpindleDrive
