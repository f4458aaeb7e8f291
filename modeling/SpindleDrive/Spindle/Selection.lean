import SpindleDrive.Spindle.Control

/-!
# Notices of the host

The host tells every driver which spindle it has selected, that settings have changed, and that it
is making a report of its options.

* `Spindle.bind` — takes the spindle into use when it is the one selected, and out of use when
  another is.
* `Spindle.applySettings` — takes over a new tolerance.
* `Spindle.reportOptions` — adds a line that names the driver.
-/

namespace SpindleDrive

namespace Spindle

open Operation

variable {World : Type}

/-- Hears that a spindle is selected.  Taken into use, the spindle has no programmed speed, finds
its address anew, asks for silence on the bus, and reads the highest speed if it is configured to;
that this may fail is passed over. -/
def bind (s : Spindle) (env : Surroundings World) (patience : Nat) (selection : Selection) :
    Operation World Unit := do
  if selection.id ≠ s.id then
    update fun c => { c with selection := none }
  else
    update fun c =>
      { c with
        selection := some selection
        data := { c.data with programmed := noSpeed }
        address := s.config.modbusAddress selection.binding }
    affect env.silence
    if s.config.queryMaxOnSelect then
      let _ ← s.requestMaxSpeed env patience

/-- Hears that settings have changed.  If they are those of spindles, the tolerance goes into the
descriptor, and a tolerance that is not negative turns the check of speeds on. -/
def applySettings (env : Surroundings World) (settings : HostSettings) (changed : SettingsChanged) :
    Operation World Unit := do
  if changed.spindle then
    affect (env.setTolerance settings.tolerance)
    update fun c =>
      { c with data := { c.data with checked := settings.tolerance.isNonneg } }

/-- Adds the driver's name and version to a report of plugins; a report of new options alone gets
no line. -/
def reportOptions (s : Spindle) (newOptions : Bool) (report : String) : String :=
  if newOptions then report
  else report ++ "[PLUGIN:" ++ s.config.model.title ++ " " ++ s.config.model.version ++ "]\n"

end Spindle

end SpindleDrive
