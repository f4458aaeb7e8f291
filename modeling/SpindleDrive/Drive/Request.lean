import SpindleDrive.Drive.CommandWord
import SpindleDrive.Drive.Model
import SpindleDrive.Drive.SpeedScale
import SpindleDrive.Modbus.RegisterReply

/-!
# Requests to a drive

A request is a frame with a tag that says what it is for.  The transport returns the tag with the
reply, so that a reply can be told apart without a look at the request.

* `RequestKind` — the tags.
* `Request.command`, `Request.speed` — writes of the command and the frequency register.
* `Request.readOutput`, `Request.readMax?` — reads of the output frequency and, for models that
  have the register, of the highest frequency.

Building a request neither waits nor sends.
-/

namespace SpindleDrive

/-- What a request is for. -/
inductive RequestKind where
  | setSpeed
  | setStatus
  | getSpeed
  | getMaxSpeed
  deriving DecidableEq, Repr

def RequestKind.name : RequestKind → String
  | setSpeed => "SetSpeed"
  | setStatus => "SetStatus"
  | getSpeed => "GetSpeed"
  | getMaxSpeed => "GetMaxSpeed"

/-- A frame to send, what it is for, and the length of its reply on the wire. -/
structure Request where
  kind : RequestKind
  frame : Frame
  replyLength : Nat
  deriving DecidableEq, Repr

/-- The frame that writes a register; a reply to it is its echo. -/
def writeFrame (address : UInt8) (register value : UInt16) : Frame :=
  WriteReply.toFrame { address, register, value }

/-- The frame that reads `count` registers from one on. -/
def readFrame (address : UInt8) (register count : UInt16) : Frame :=
  let (registerHigh, registerLow) := wordBytes register
  let (countHigh, countLow) := wordBytes count
  Frame.ofBytes [address, FunctionCode.readHoldingRegisters.toByte,
    registerHigh, registerLow, countHigh, countLow]

namespace Request

/-- The reply to a write: its six bytes and the checksum. -/
def writeReplyLength : Nat := 6 + checksumLength

/-- The reply to a read of one register: address, function, byte count, value and checksum. -/
def readReplyLength : Nat := 5 + checksumLength

/-- Writes a command word; the high byte of the register stays zero. -/
def command (address : UInt8) (registers : RegisterMap) (word : CommandWord) : Request where
  kind := .setStatus
  frame := writeFrame address registers.command word.toByte.toUInt16
  replyLength := writeReplyLength

def speed (address : UInt8) (registers : RegisterMap) (code : UInt16) : Request where
  kind := .setSpeed
  frame := writeFrame address registers.frequency code
  replyLength := writeReplyLength

def readOutput (address : UInt8) (registers : RegisterMap) : Request where
  kind := .getSpeed
  frame := readFrame address registers.outputFrequency 1
  replyLength := readReplyLength

/-- Reads the highest frequency, where there is a register for it. -/
def readMax? (address : UInt8) (registers : RegisterMap) : Option Request :=
  registers.maxFrequency.map fun register =>
    { kind := .getMaxSpeed
      frame := readFrame address register 1
      replyLength := readReplyLength }

end Request

end SpindleDrive
