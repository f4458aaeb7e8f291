import SpindleDrive.Drive.Request

/-!
# The transport

The driver reaches the bus through a transport, which adds the checksum, keeps the silences
between frames and waits for replies.  This file holds what passes between the two.

* `TransportError` — why one exchange did not come about.
* `SendMode` — whether the sender waits for the reply or lets the host deliver it later.
* `Reply` — what a slave answered, with the tag of the request that it answers.
-/

namespace SpindleDrive

/-- Why an exchange on the bus did not come about. -/
inductive TransportError where
  | notUp
  | timeout
  | checksum
  | queueFull
  | lineFailure (reason : String)
  deriving DecidableEq, Repr

def TransportError.message : TransportError → String
  | notUp => "Modbus transport is not up"
  | timeout => "Reply timeout"
  | checksum => "CRC mismatch"
  | queueFull => "Transmit queue full"
  | lineFailure reason => "IO error: " ++ reason

/-- Whether a sender waits for the reply. -/
inductive SendMode where
  | blocking
  | nonBlocking
  deriving DecidableEq, Repr

/-- What a slave answered: a frame, or a refusal with its reason. -/
inductive ReplyOutcome where
  | response (frame : Frame)
  | exception (code : ExceptionCode)
  deriving DecidableEq, Repr

/-- An answer with the tag of its request. -/
structure Reply where
  kind : RequestKind
  outcome : ReplyOutcome
  deriving DecidableEq, Repr

namespace Reply

/-- The answer that a frame is: a refusal if it carries the exception flag. -/
def ofFrame (kind : RequestKind) (frame : Frame) : Reply :=
  match exceptionCode? frame with
  | some code => ⟨kind, .exception code⟩
  | none => ⟨kind, .response frame⟩

def exception (kind : RequestKind) (code : ExceptionCode) : Reply :=
  ⟨kind, .exception code⟩

def isException (r : Reply) : Bool :=
  match r.outcome with
  | .exception _ => true
  | .response _ => false

end Reply

end SpindleDrive
