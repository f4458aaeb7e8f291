import SpindleDrive.Number.Binary32

/-!
# The command word

The low byte of the command register holds four fields of two bits: run or stop, a reserved one,
the direction, and the reset of fault flags.

* `RunStop`, `Direction`, `FaultReset` — the fields, each with the number that stands for it.
* `CommandWord` — the four together; `ofByte` and `toByte` are inverse to each other.
* `RunStop.forRequest` — stop whenever the spindle is to be off or its speed is zero.
-/

namespace SpindleDrive

/-- What a command word does to the motor. -/
inductive RunStop where
  | noFunction
  | stop
  | start
  | jog
  deriving DecidableEq, Repr

/-- What a command word does to the direction. -/
inductive Direction where
  | noFunction
  | forward
  | reverse
  | toggle
  deriving DecidableEq, Repr

/-- What a command word does to the fault flags. -/
inductive FaultReset where
  | noFunction
  | resetOne
  | resetAll
  | reserved
  deriving DecidableEq, Repr

namespace RunStop

def ofFin : Fin 4 → RunStop
  | 0 => noFunction
  | 1 => stop
  | 2 => start
  | 3 => jog

def toFin : RunStop → Fin 4
  | noFunction => 0
  | stop => 1
  | start => 2
  | jog => 3

/-- The field for a request: off, or a speed of either zero, is a stop. -/
def forRequest (on : Bool) (rpm : Binary32) : RunStop :=
  if !on || rpm.isZero then stop else start

end RunStop

namespace Direction

def ofFin : Fin 4 → Direction
  | 0 => noFunction
  | 1 => forward
  | 2 => reverse
  | 3 => toggle

def toFin : Direction → Fin 4
  | noFunction => 0
  | forward => 1
  | reverse => 2
  | toggle => 3

def ofCcw (ccw : Bool) : Direction :=
  if ccw then reverse else forward

end Direction

namespace FaultReset

def ofFin : Fin 4 → FaultReset
  | 0 => noFunction
  | 1 => resetOne
  | 2 => resetAll
  | 3 => reserved

def toFin : FaultReset → Fin 4
  | noFunction => 0
  | resetOne => 1
  | resetAll => 2
  | reserved => 3

end FaultReset

/-- The fields of a command byte, the lowest first. -/
structure CommandWord where
  runStop : RunStop
  spare : Fin 4
  direction : Direction
  faultReset : FaultReset
  deriving DecidableEq, Repr

namespace CommandWord

/-- The two bits of a byte from a place on. -/
def field (byte : UInt8) (place : Nat) : Fin 4 :=
  ⟨byte.toNat / 2 ^ place % 4, Nat.mod_lt _ (by decide)⟩

def ofByte (byte : UInt8) : CommandWord where
  runStop := .ofFin (field byte 0)
  spare := field byte 2
  direction := .ofFin (field byte 4)
  faultReset := .ofFin (field byte 6)

def toByte (w : CommandWord) : UInt8 :=
  UInt8.ofNat
    (w.runStop.toFin.val + 4 * w.spare.val + 16 * w.direction.toFin.val +
      64 * w.faultReset.toFin.val)

/-- The word that does nothing. -/
def idle : CommandWord := ⟨.noFunction, 0, .noFunction, .noFunction⟩

/-- The word that runs or stops the motor in a direction. -/
def run (runStop : RunStop) (direction : Direction) : CommandWord :=
  { idle with runStop, direction }

/-- The word that clears every fault flag and leaves the motor as it is. -/
def resetFaults : CommandWord := { idle with faultReset := .resetAll }

end CommandWord

end SpindleDrive
