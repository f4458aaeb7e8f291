import SpindleDrive.Drive.Model
import SpindleDrive.Modbus.Frame

/-!
# Stored frames and models

Frames and models can be kept in a self-describing data format.  This file reads them back from
the values of such a format and writes them as such values.

* `StoredValue` — the values of the format.
* `Frame.ofStored?`, `Frame.toStored` — a frame is a record of its sixteen bytes, `adu`, and its
  count, `len`; the two in a list will do as well.
* `DriveModel.ofStored?`, `DriveModel.toStored` — a model is its configuration name.

Fields that are not asked for are ignored.  Reading a frame checks that there are sixteen bytes and
that each is a byte, but not that the count fits or that the unused bytes are zero.
-/

namespace SpindleDrive

/-- The values of a self-describing data format. -/
inductive StoredValue where
  | null
  | flag (value : Bool)
  | integer (value : Int)
  | fraction
  | text (value : String)
  | list (items : List StoredValue)
  | record (fields : List (String × StoredValue))
  deriving Inhabited

namespace StoredValue

/-- The byte that a value is, if it is an integer in range. -/
def byte? : StoredValue → Option UInt8
  | integer value => if 0 ≤ value ∧ value < 256 then some (UInt8.ofNat value.toNat) else none
  | _ => none

/-- The bytes of a list of bytes. -/
def bytes? : StoredValue → Option (List UInt8)
  | list items => items.mapM byte?
  | _ => none

end StoredValue

namespace Frame

/-- The frame with exactly these bytes in its buffer and this count. -/
def ofParts? (adu len : StoredValue) : Option Frame := do
  let data ← adu.bytes?
  let length ← len.byte?
  if h : data.toArray.size = frameCapacity then
    return { buffer := ⟨data.toArray, h⟩, length }
  else none

/-- Reads a frame from its stored form. -/
def ofStored? : StoredValue → Option Frame
  | .record fields => do
    let adu ← fields.lookup "adu"
    let len ← fields.lookup "len"
    ofParts? adu len
  | .list [adu, len] => ofParts? adu len
  | _ => none

def toStored (f : Frame) : StoredValue :=
  .record
    [("adu", .list (f.buffer.toList.map fun b => .integer b.toNat)),
      ("len", .integer f.length.toNat)]

end Frame

namespace DriveModel

/-- Reads a model from its stored form: its name, or a record of nothing but its name. -/
def ofStored? : StoredValue → Option DriveModel
  | .text name => ofConfigName? name
  | .record [(name, .null)] => ofConfigName? name
  | _ => none

def toStored (m : DriveModel) : StoredValue := .text m.configName

end DriveModel

end SpindleDrive
