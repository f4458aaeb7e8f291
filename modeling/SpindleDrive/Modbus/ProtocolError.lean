import SpindleDrive.Modbus.Code
import SpindleDrive.Modbus.Frame
import SpindleDrive.Number.Text

/-!
# What can be wrong with a reply or a scale

The causes for which a frame is not the reply that was expected, and those for which a frequency
scale cannot be used, each with its wording.
-/

namespace SpindleDrive

/-- A field that can hold a value out of range. -/
inductive ValueField where
  | byteCount
  | unitsPerHz
  | other (name : String)
  deriving DecidableEq, Repr

def ValueField.name : ValueField → String
  | byteCount => "byte_count"
  | unitsPerHz => "units_per_hz"
  | other name => name

/-- Why a frame or a scale is refused. -/
inductive ProtocolError where
  | invalidLength (expected actual : Nat)
  | unexpectedFunction (expected actual : UInt8)
  | exception (code : ExceptionCode)
  | invalidScale (rpmPerHz : Binary32)
  | invalidValue (field : ValueField) (value : UInt16)
  deriving DecidableEq, Repr

def ProtocolError.message : ProtocolError → String
  | invalidLength expected actual =>
    s!"Invalid frame length: expected {expected}, got {actual}"
  | unexpectedFunction expected actual =>
    "Unexpected function code: expected 0x" ++ Frame.hexByte expected ++
      ", got 0x" ++ Frame.hexByte actual
  | exception code => "Device exception: " ++ code.name
  | invalidScale rpmPerHz => "Invalid frequency scale: " ++ rpmPerHz.toText ++ " rpm/Hz"
  | invalidValue field value =>
    "Invalid value for field " ++ field.name ++ ": " ++ toString value

end SpindleDrive
