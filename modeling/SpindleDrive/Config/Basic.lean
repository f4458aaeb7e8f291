import SpindleDrive.Drive.Model
import SpindleDrive.Drive.SpeedScale
import SpindleDrive.Files

/-!
# The configuration of a drive

What the driver has to be told about a drive: its model, the ratio between its frequency and the
speed of the spindle, how often to retry, how often to poll, and where it is on the bus.

* `Config` — the settings, with their defaults.
* `Config.validate` — refuses a ratio that is not finite and positive, no retries at all, and
  addresses that no slave can have, in that order.
* `Config.modbusAddress` — the address for a number under which the host knows the spindle.
* `Config.speedScale`, `Config.maxSpeedScale` — the conversions for the two frequency registers.
-/

namespace SpindleDrive

structure Config where
  /-- The model, which fixes the registers. -/
  model : DriveModel := .yl620
  /-- The revolutions per minute of one hertz; a motor with two poles has sixty. -/
  rpmPerHz : Binary32 := .ofNat 60
  /-- The attempts at a blocking exchange, and the refusals in a row that raise an alarm. -/
  retries : UInt32 := 25
  /-- The least number of milliseconds between two readings of the speed. -/
  pollInterval : UInt64 := 100
  /-- The addresses on the bus, by the number under which the host knows the spindle. -/
  addresses : List UInt8 := [1]
  /-- Whether the highest frequency is read when the spindle is selected. -/
  queryMaxOnSelect : Bool := false
  deriving DecidableEq, Repr

/-- Why settings cannot be used. -/
inductive ConfigFault where
  | ratioNotPositive (rpmPerHz : Binary32)
  | noRetries
  | addressOutOfRange (address : UInt8)
  | unusableScale (error : ProtocolError)
  | other (reason : String)
  deriving DecidableEq, Repr

def ConfigFault.message : ConfigFault → String
  | ratioNotPositive rpmPerHz => "rpm_per_hz must be positive, got " ++ rpmPerHz.toText
  | noRetries => "retries must be >= 1"
  | addressOutOfRange address => s!"modbus address {address} out of range 1..=247"
  | unusableScale error => error.message
  | other reason => reason

/-- Why a text cannot be understood as settings. -/
inductive TextFault where
  | notToml
  /-- The value of a key is of another kind than the setting, or out of its range. -/
  | unusableValue (key : String)
  deriving DecidableEq, Repr

def TextFault.message : TextFault → String
  | notToml => "not a TOML document"
  | unusableValue key => "unusable value of " ++ key

/-- Why there is no configuration: its file cannot be read, its text cannot be understood, or its
settings cannot be used. -/
inductive ConfigError where
  | unreadable (fault : FileFault)
  | unparsable (fault : TextFault)
  | invalid (fault : ConfigFault)
  deriving DecidableEq, Repr

namespace ConfigError

def message : ConfigError → String
  | unreadable fault => "Failed to read config: " ++ fault.message
  | unparsable fault => "Failed to parse config: " ++ fault.message
  | invalid fault => "Invalid config: " ++ fault.message

/-- The error with what lies behind it, the outermost first. -/
def causes (e : ConfigError) : List String :=
  e.message ::
    match e with
    | unreadable fault => [fault.message]
    | unparsable fault => [fault.message]
    | invalid _ => []

end ConfigError

namespace Config

/-- The address of a slave when none is configured. -/
def defaultAddress : UInt8 := 1

/-- Whether a slave can have an address: zero is the broadcast, and those from 248 are reserved. -/
def isSlaveAddress (address : UInt8) : Bool :=
  1 ≤ address && address ≤ 247

/-- The first fault of the settings, if they have one. -/
def fault? (c : Config) : Option ConfigFault :=
  if ¬ (c.rpmPerHz.isFinite && c.rpmPerHz.isPositive) then some (.ratioNotPositive c.rpmPerHz)
  else if c.retries = 0 then some .noRetries
  else (c.addresses.find? (!isSlaveAddress ·)).map .addressOutOfRange

def validate (c : Config) : Except ConfigError Unit :=
  match c.fault? with
  | some fault => .error (.invalid fault)
  | none => .ok ()

/-- The bus address for a host number.  A number past the list has the first address, and without
a list there is the default. -/
def modbusAddress (c : Config) (binding : UInt8) : UInt8 :=
  (c.addresses[binding.toNat]?).getD (c.addresses.headD defaultAddress)

def scaleFor (c : Config) (unitsPerHz : UInt16) : Except ConfigError SpeedScale :=
  (SpeedScale.make c.rpmPerHz unitsPerHz).mapError fun e => .invalid (.unusableScale e)

/-- The conversion for the frequency and the output register. -/
def speedScale (c : Config) : Except ConfigError SpeedScale :=
  c.scaleFor c.model.registers.unitsPerHz

/-- The conversion for the register of the highest frequency. -/
def maxSpeedScale (c : Config) : Except ConfigError SpeedScale :=
  c.scaleFor c.model.registers.maxFrequencyUnitsPerHz

end Config

end SpindleDrive
