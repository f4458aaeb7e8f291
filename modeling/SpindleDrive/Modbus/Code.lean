/-!
# Function and exception codes

The driver uses two of the bus functions: reading holding registers and writing one register.  A
slave refuses a request by setting the top bit of the function byte and giving a reason.

* `FunctionCode` — the two functions, with the bytes that stand for them.
* `ExceptionCode` — the reasons, every undefined byte being read as `unknown`.
-/

namespace SpindleDrive

/-- The bit of a function byte that marks a refusal. -/
def exceptionFlag : UInt8 := 0x80

def isExceptionByte (byte : UInt8) : Bool :=
  byte &&& exceptionFlag != 0

/-- The functions in use. -/
inductive FunctionCode where
  | readHoldingRegisters
  | writeRegister
  deriving DecidableEq, Repr

namespace FunctionCode

def toByte : FunctionCode → UInt8
  | readHoldingRegisters => 0x03
  | writeRegister => 0x06

/-- The function of a byte, if it is one of those in use. -/
def ofByte? (byte : UInt8) : Option FunctionCode :=
  if byte = 0x03 then some readHoldingRegisters
  else if byte = 0x06 then some writeRegister
  else none

/-- The function byte of a refusal. -/
def exceptionByte (f : FunctionCode) : UInt8 := f.toByte ||| exceptionFlag

theorem ofByte?_toByte (f : FunctionCode) : ofByte? f.toByte = some f := by
  cases f <;> rfl

end FunctionCode

/-- Why a slave refused a request. -/
inductive ExceptionCode where
  | illegalFunction
  | illegalDataAddress
  | illegalDataValue
  | slaveDeviceFailure
  | acknowledge
  | slaveDeviceBusy
  | memoryParityError
  | gatewayPathUnavailable
  | gatewayTargetFailed
  | unknown
  deriving DecidableEq, Repr

namespace ExceptionCode

def toByte : ExceptionCode → UInt8
  | illegalFunction => 0x01
  | illegalDataAddress => 0x02
  | illegalDataValue => 0x03
  | slaveDeviceFailure => 0x04
  | acknowledge => 0x05
  | slaveDeviceBusy => 0x06
  | memoryParityError => 0x08
  | gatewayPathUnavailable => 0x0A
  | gatewayTargetFailed => 0x0B
  | unknown => 0xFF

/-- The reason that a byte gives; undefined bytes give `unknown`. -/
def ofByte (byte : UInt8) : ExceptionCode :=
  if byte = 0x01 then illegalFunction
  else if byte = 0x02 then illegalDataAddress
  else if byte = 0x03 then illegalDataValue
  else if byte = 0x04 then slaveDeviceFailure
  else if byte = 0x05 then acknowledge
  else if byte = 0x06 then slaveDeviceBusy
  else if byte = 0x08 then memoryParityError
  else if byte = 0x0A then gatewayPathUnavailable
  else if byte = 0x0B then gatewayTargetFailed
  else unknown

def name : ExceptionCode → String
  | illegalFunction => "IllegalFunction"
  | illegalDataAddress => "IllegalDataAddress"
  | illegalDataValue => "IllegalDataValue"
  | slaveDeviceFailure => "SlaveDeviceFailure"
  | acknowledge => "Acknowledge"
  | slaveDeviceBusy => "SlaveDeviceBusy"
  | memoryParityError => "MemoryParityError"
  | gatewayPathUnavailable => "GatewayPathUnavailable"
  | gatewayTargetFailed => "GatewayTargetFailed"
  | unknown => "Unknown"

theorem ofByte_toByte (c : ExceptionCode) : ofByte c.toByte = c := by
  cases c <;> rfl

end ExceptionCode

end SpindleDrive
