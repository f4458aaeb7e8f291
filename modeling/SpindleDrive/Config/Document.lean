import SpindleDrive.Config.Basic
import SpindleDrive.Toml.Document
import SpindleDrive.Toml.Writing

/-!
# Configuration files

A configuration is kept as a TOML document with a key for each setting.  A setting without a key
has its default, and keys that are none of the settings are passed over.

* `Config.ofText` — the configuration of a text; its settings are validated.
* `Config.ofContent` — the same for what was read of a file.
* `Config.toText` — the text of a configuration, all six settings in order.
-/

namespace SpindleDrive

/-! ## The values of settings -/

namespace TomlValue

/-- A natural number below a bound. -/
def natBelow (bound : Nat) : TomlValue → Option Nat
  | integer value => if 0 ≤ value ∧ value < bound then some value.toNat else none
  | _ => none

def byte? (v : TomlValue) : Option UInt8 := (v.natBelow (2 ^ 8)).map UInt8.ofNat

def uint32? (v : TomlValue) : Option UInt32 := (v.natBelow (2 ^ 32)).map UInt32.ofNat

def uint64? (v : TomlValue) : Option UInt64 := (v.natBelow (2 ^ 64)).map UInt64.ofNat

def flag? : TomlValue → Option Bool
  | flag value => some value
  | _ => none

def bytes? : TomlValue → Option (List UInt8)
  | array _ items => items.mapM byte?
  | _ => none

/-- A number, with a point or without.  One with a point goes through double precision, and one
without must fit into 64 bits and is rounded once. -/
def binary32? : TomlValue → Option Binary32
  | float (.finite value) => some value.throughBinary64
  | float (.infinite negative) => some (.ofCode negative infinityCode)
  | float .nan => some .nan
  | integer value => if -2 ^ 63 ≤ value ∧ value < 2 ^ 64 then some (.ofInt value) else none
  | _ => none

/-- Whether a value is an array or a table without content. -/
def isEmptyCollection : TomlValue → Bool
  | array _ items => items.isEmpty
  | table _ entries => entries.isEmpty
  | _ => false

/-- A drive model: its name, or a table with its name as the only key and nothing behind it. -/
def model? : TomlValue → Option DriveModel
  | text name => DriveModel.ofConfigName? name
  | table _ [(name, value)] =>
    if value.isEmptyCollection then DriveModel.ofConfigName? name else none
  | _ => none

end TomlValue

namespace Config

/-! ## Reading -/

/-- The setting of a key, or its default. -/
def setting {α : Type} (t : TomlTable) (key : String) (read : TomlValue → Option α) (default : α) :
    Except ConfigError α :=
  match t.lookup key with
  | none => .ok default
  | some value =>
    match read value with
    | some a => .ok a
    | none => .error (.unparsable (.unusableValue key))

/-- The settings of a table, which need not be valid. -/
def ofTable (t : TomlTable) : Except ConfigError Config := do
  let default : Config := {}
  return {
    model := ← setting t "profile" TomlValue.model? default.model
    rpmPerHz := ← setting t "rpm_per_hz" TomlValue.binary32? default.rpmPerHz
    retries := ← setting t "retries" TomlValue.uint32? default.retries
    pollInterval := ← setting t "poll_interval_ms" TomlValue.uint64? default.pollInterval
    addresses := ← setting t "addresses" TomlValue.bytes? default.addresses
    queryMaxOnSelect :=
      ← setting t "query_max_rpm_on_select" TomlValue.flag? default.queryMaxOnSelect }

def ofText (text : String) : Except ConfigError Config :=
  match Toml.table? text with
  | none => .error (.unparsable .notToml)
  | some table => do
    let c ← ofTable table
    c.validate
    return c

def ofContent : Except FileFault ByteArray → Except ConfigError Config
  | .error fault => .error (.unreadable fault)
  | .ok content =>
    match String.fromUTF8? content with
    | none => .error (.unreadable .notText)
    | some text => ofText text

/-! ## Writing -/

def toText (c : Config) : String :=
  Toml.line "profile" (Toml.ofPlainText c.model.configName) ++
  Toml.line "rpm_per_hz" (Toml.ofBinary32 c.rpmPerHz) ++
  Toml.line "retries" (Toml.ofNat c.retries.toNat) ++
  Toml.line "poll_interval_ms" (Toml.ofNat c.pollInterval.toNat) ++
  Toml.line "addresses" (Toml.ofNats (c.addresses.map UInt8.toNat)) ++
  Toml.line "query_max_rpm_on_select" (Toml.ofFlag c.queryMaxOnSelect)

end Config

end SpindleDrive
