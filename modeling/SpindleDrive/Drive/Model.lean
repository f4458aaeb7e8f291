/-!
# Drive models

The registers through which a drive is controlled, and their resolutions, depend on its model.

* `DriveModel` — the models that are known, with their names.
* `RegisterMap` — the registers of a model and the units in which it counts frequencies.
-/

namespace SpindleDrive

inductive DriveModel where
  | yl620
  | gs20
  deriving DecidableEq, Repr, Inhabited

/-- The registers of a drive.  A drive may have no register for its highest frequency. -/
structure RegisterMap where
  command : UInt16
  frequency : UInt16
  outputFrequency : UInt16
  maxFrequency : Option UInt16
  unitsPerHz : UInt16
  maxFrequencyUnitsPerHz : UInt16
  deriving DecidableEq, Repr

namespace DriveModel

/-- The registers of a model.  The first model takes its frequency in tenths of a hertz but gives
its highest frequency in hundredths. -/
def registers : DriveModel → RegisterMap
  | yl620 =>
    { command := 0x2000, frequency := 0x2001, outputFrequency := 0x200B
      maxFrequency := some 0x0000, unitsPerHz := 10, maxFrequencyUnitsPerHz := 100 }
  | gs20 =>
    { command := 0x2000, frequency := 0x2001, outputFrequency := 0x2103
      maxFrequency := none, unitsPerHz := 100, maxFrequencyUnitsPerHz := 100 }

/-- The name of a model in a configuration. -/
def configName : DriveModel → String
  | yl620 => "yl620"
  | gs20 => "gs20"

def ofConfigName? (name : String) : Option DriveModel :=
  if name = "yl620" then some yl620
  else if name = "gs20" then some gs20
  else none

/-- The name under which a model introduces itself to the host. -/
def title : DriveModel → String
  | yl620 => "Yalang VFD YL620A"
  | gs20 => "Durapulse VFD GS20"

def version : DriveModel → String
  | yl620 => "0.03"
  | gs20 => "v0.06"

theorem ofConfigName?_configName (m : DriveModel) : ofConfigName? m.configName = some m := by
  cases m <;> rfl

end DriveModel

end SpindleDrive
