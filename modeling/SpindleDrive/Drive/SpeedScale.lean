import SpindleDrive.Modbus.ProtocolError

/-!
# Speeds and register codes

A drive knows frequencies, counted in units of its own, where the host knows speeds in revolutions
per minute.  A scale converts between the two in single precision, in this order of operations.

* `SpeedScale` — the revolutions per minute of one hertz, finite and positive, with the units of
  one hertz, not zero.
* `SpeedScale.toCode` — the code nearest to a speed: nothing below zero, nothing past a word.
* `SpeedScale.toSpeed` — the speed of a code.
* `SpeedScale.quantum` — the speed of one unit.
-/

namespace SpindleDrive

/-- A usable conversion between speeds and codes. -/
structure SpeedScale where
  rpmPerHz : Binary32
  unitsPerHz : UInt16
  finite : rpmPerHz.isFinite = true
  positive : rpmPerHz.isPositive = true
  units_ne_zero : unitsPerHz ≠ 0
  deriving DecidableEq, Repr

namespace SpeedScale

/-- The scale of two factors; the speed factor is looked at first. -/
def make (rpmPerHz : Binary32) (unitsPerHz : UInt16) : Except ProtocolError SpeedScale :=
  if h : rpmPerHz.isFinite = true ∧ rpmPerHz.isPositive = true then
    if hu : unitsPerHz = 0 then .error (.invalidValue .unitsPerHz unitsPerHz)
    else .ok ⟨rpmPerHz, unitsPerHz, h.1, h.2, hu⟩
  else .error (.invalidScale rpmPerHz)

def units (s : SpeedScale) : Binary32 := .ofNat s.unitsPerHz.toNat

def largestCode : Binary32 := .ofNat 0xFFFF

/-- The code of a speed.  Negative speeds and NaN become zero, speeds out of range the largest
code. -/
def toCode (s : SpeedScale) (rpm : Binary32) : UInt16 :=
  ((rpm.clampBelow * s.units / s.rpmPerHz).round.smaller largestCode).toUInt16

def toSpeed (s : SpeedScale) (code : UInt16) : Binary32 :=
  .ofNat code.toNat * s.rpmPerHz / s.units

def quantum (s : SpeedScale) : Binary32 :=
  s.rpmPerHz / s.units

end SpeedScale

end SpindleDrive
