import SpindleDrive.Bus.Transport
import SpindleDrive.Config.Basic

/-!
# What can go wrong in the driver

Every operation of the driver ends well or with one of these causes.
-/

namespace SpindleDrive

/-- The parts without which no spindle can be set up. -/
inductive RequiredPart where
  | transport
  | host
  deriving DecidableEq, Repr

def RequiredPart.name : RequiredPart → String
  | transport => "transport"
  | host => "host"

/-- Why an operation failed. -/
inductive DriverError where
  | transport (error : TransportError)
  | protocol (error : ProtocolError)
  | config (error : ConfigError)
  /-- Every attempt at a blocking exchange failed, the last one for this reason. -/
  | exhausted (kind : RequestKind) (attempts : Nat) (last : TransportError)
  | notSelected
  /-- The same operation is still going on. -/
  | reentrant (kind : RequestKind)
  | missingPart (part : RequiredPart)
  | registryFull
  deriving DecidableEq, Repr

namespace DriverError

def message : DriverError → String
  | transport error => "Transport error: " ++ error.message
  | protocol error => "Protocol error: " ++ error.message
  | config error => "Config error: " ++ error.message
  | exhausted kind attempts last =>
    kind.name ++ " failed after " ++ toString attempts ++ " attempts: " ++ last.message
  | notSelected => "Spindle is not selected"
  | reentrant kind => kind.name ++ " is already in progress"
  | missingPart part => "Missing builder field: " ++ part.name
  | registryFull => "Spindle registry is full"

/-- The failure with what lies behind it, the outermost first. -/
def causes (e : DriverError) : List String :=
  e.message ::
    match e with
    | transport error => [error.message]
    | protocol error => [error.message]
    | config error => error.causes
    | _ => []

end DriverError

end SpindleDrive
