import SpindleDrive.Number.Text

/-!
# Writing TOML

The texts of plain values, and the line that gives one to a key.  Numbers with a point have the
fewest digits that read back, without an exponent and with at least one digit after the point.
-/

namespace SpindleDrive

namespace Toml

/-- The line `key = value`. -/
def line (key value : String) : String := key ++ " = " ++ value ++ "\n"

/-- A text without quotes, backslashes and controls. -/
def ofPlainText (text : String) : String := "\"" ++ text ++ "\""

def ofFlag (value : Bool) : String := toString value

def ofNat (n : Nat) : String := toString n

/-- An array on one line. -/
def ofNats (ns : List Nat) : String := "[" ++ ", ".intercalate (ns.map toString) ++ "]"

/-- The text of a finite number without its sign. -/
def ofCode (code : Nat) : String :=
  let text := Binary32.codeText code
  if '.' ∈ text.toList then text else text ++ ".0"

def ofBinary32 : Binary32 → String
  | .nan => "nan"
  | .signed negative code _ =>
    (if negative then "-" else "") ++
      if code = infinityCode then "inf" else ofCode code

end Toml

end SpindleDrive
