import SpindleDrive.Number.Binary32

/-!
# Speeds of a spindle

What the driver was asked for and what it has measured.  The spindle is at speed when the last
measurement lies in a band around the programmed speed.

* `SpindleState` — on or off, the direction, and whether the spindle is at speed.
* `SpeedData` — the programmed speed with its band, the measured speed, and the state that was
  asked for together with the last verdict.
* `SpeedData.program` — sets a programmed speed and its band, and takes the verdict back.
* `SpeedData.measure` — enters a measurement and gives the verdict.
* `SpeedData.reissueSpeed` — the speed to send again after a refusal.
-/

namespace SpindleDrive

structure SpindleState where
  on : Bool := false
  ccw : Bool := false
  atSpeed : Bool := false
  deriving DecidableEq, Repr, Inhabited

namespace SpindleState

def off : SpindleState := {}
def cw : SpindleState := { on := true }
def counterClockwise : SpindleState := { on := true, ccw := true }

end SpindleState

/-- The mark of a programmed speed that no longer holds: minus one. -/
def noSpeed : Binary32 := .ofInt (-1)

/-- The programmed and the measured speed of a spindle. -/
structure SpeedData where
  measured : Binary32 := .zero
  programmed : Binary32 := .zero
  /-- The state that was asked for, with the last verdict. -/
  commanded : SpindleState := {}
  /-- Whether the band is looked at. -/
  checked : Bool := false
  low : Binary32 := .zero
  high : Binary32 := .zero
  deriving DecidableEq, Repr, Inhabited

namespace SpeedData

def hundred : Binary32 := .ofNat 100

def one : Binary32 := .ofNat 1

/-- Sets a programmed speed; the tolerance is a percentage of it.  The verdict waits for the next
measurement. -/
def program (d : SpeedData) (rpm tolerance : Binary32) : SpeedData :=
  { d with
    programmed := rpm
    commanded := { d.commanded with atSpeed := false }
    low := rpm * (one - tolerance / hundred)
    high := rpm * (one + tolerance / hundred) }

/-- Whether a speed passes: it is in the band, or the band is not looked at. -/
def accepts (d : SpeedData) (rpm : Binary32) : Bool :=
  !d.checked || (Binary32.le d.low rpm && Binary32.le rpm d.high)

def measure (d : SpeedData) (rpm : Binary32) : SpeedData :=
  { d with
    measured := rpm
    commanded := { d.commanded with atSpeed := d.accepts rpm } }

def hasProgrammed (d : SpeedData) : Bool := d.programmed.isNonneg

/-- The programmed speed, and zero where none holds. -/
def reissueSpeed (d : SpeedData) : Binary32 := d.programmed.clampBelow

end SpeedData

end SpindleDrive
