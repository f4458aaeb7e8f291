import SpindleDrive.Number.Binary32

/-!
# The host's spindles

The host keeps a register of its spindles and gives each a number when it is entered.  It selects
one of them at a time, and says so to every driver.

* `Descriptor` — what the host knows of a spindle: its name, what it can do, and the tolerance
  within which it is at speed.
* `Registry` — the descriptors by number; there is room for 256.
* `Selection` — the notice that a spindle is selected.
* `HostSettings`, `SettingsChanged` — the settings that concern spindles.
-/

namespace SpindleDrive

/-- The number of a spindle in the host's register. -/
structure SpindleId where
  value : UInt8
  deriving DecidableEq, Repr

structure Capabilities where
  variableSpeed : Bool := false
  atSpeed : Bool := false
  direction : Bool := false
  commandControlled : Bool := false
  deriving DecidableEq, Repr

/-- A spindle behind a drive can do everything. -/
def Capabilities.drive : Capabilities := ⟨true, true, true, true⟩

/-- What the host knows of a spindle.  The tolerance is a percentage; a negative one turns the
check off. -/
structure Descriptor where
  name : String
  capabilities : Capabilities
  tolerance : Binary32 := .zero
  deriving DecidableEq, Repr

/-- The notice that a spindle is selected, with the number by which its bus address is found. -/
structure Selection where
  id : SpindleId
  binding : UInt8
  deriving DecidableEq, Repr

structure HostSettings where
  tolerance : Binary32 := .zero
  deriving DecidableEq, Repr

structure SettingsChanged where
  spindle : Bool := false
  deriving DecidableEq, Repr

/-- What the host can be alarmed by. -/
inductive Alarm where
  | spindle
  deriving DecidableEq, Repr

/-- The host's spindles, by number. -/
structure Registry where
  descriptors : List Descriptor := []
  deriving DecidableEq, Repr

namespace Registry

/-- The spindles that there is room for. -/
def capacity : Nat := 256

def size (r : Registry) : Nat := r.descriptors.length

/-- Enters a spindle under the next number, if there is room. -/
def register (r : Registry) (d : Descriptor) : Option (SpindleId × Registry) :=
  if r.size < capacity then
    some (⟨UInt8.ofNat r.size⟩, { descriptors := r.descriptors ++ [d] })
  else none

def get? (r : Registry) (id : SpindleId) : Option Descriptor :=
  r.descriptors[id.value.toNat]?

/-- Changes the descriptor under a number; without one there, nothing changes. -/
def modify (r : Registry) (id : SpindleId) (f : Descriptor → Descriptor) : Registry where
  descriptors := r.descriptors.modify id.value.toNat f

/-- The notice for a spindle that is entered. -/
def select (r : Registry) (id : SpindleId) (binding : UInt8) : Option Selection :=
  (r.get? id).map fun _ => ⟨id, binding⟩

/-- The tolerance of a spindle that is entered, and zero for any other. -/
def tolerance (r : Registry) (id : SpindleId) : Binary32 :=
  ((r.get? id).map (·.tolerance)).getD .zero

/-- The number of a spindle is that of the spindles before it, which no other has. -/
theorem size_of_register {r r' : Registry} {d : Descriptor} {id : SpindleId}
    (h : r.register d = some (id, r')) : id.value.toNat = r.size ∧ r'.size = r.size + 1 := by
  rw [register] at h
  split at h
  · rename_i hroom
    have hsize : r.size < 256 := hroom
    cases h
    refine ⟨?_, by simp [size]⟩
    show (UInt8.ofNat r.size).toNat = r.size
    rw [UInt8.toNat_ofNat']
    omega
  · cases h

/-- The notice for a spindle carries its number. -/
theorem id_of_select {r : Registry} {id : SpindleId} {binding : UInt8} {selection : Selection}
    (h : r.select id binding = some selection) : selection.id = id := by
  cases hd : r.get? id with
  | none => simp [select, hd] at h
  | some d =>
      simp only [select, hd, Option.map_some, Option.some.injEq] at h
      rw [← h]

end Registry

end SpindleDrive
