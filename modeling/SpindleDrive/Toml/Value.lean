import SpindleDrive.Number.Decimal

/-!
# TOML values and tables

A document is a table of values by key, put together from its statements one by one.  Which
statements may add to a table depends on how the table came about, so every table says so.

* `TomlValue` — the values.
* `TableOrigin` — how a table came about.
* `TomlTable` — the entries of a table, in the order in which they were made.
* `TomlTable.insertPath` — a `key = value` statement, the key being a path.
* `TomlTable.openTable`, `openElement` — the headers `[path]` and `[[path]]`.

An array made by headers is written to by way of its last element.
-/

namespace SpindleDrive

/-- A number with a point or an exponent, or what takes the place of one. -/
inductive TomlFloat where
  | finite (value : Decimal)
  | infinite (negative : Bool)
  | nan
  deriving DecidableEq, Repr

/-- How a table came about. -/
inductive TableOrigin where
  /-- By its own header, or as the document itself. -/
  | header
  /-- As a part of the path of a header. -/
  | superTable
  /-- As a part of the path of a key. -/
  | dottedKey
  /-- Between braces; nothing can be added to it. -/
  | inline
  deriving DecidableEq, Repr

/-- A value.  Of dates and times nothing is kept. -/
inductive TomlValue where
  | text (value : String)
  | integer (value : Int)
  | float (value : TomlFloat)
  | flag (value : Bool)
  | moment
  /-- An array is appendable when it was made by headers. -/
  | array (appendable : Bool) (items : List TomlValue)
  | table (origin : TableOrigin) (entries : List (String × TomlValue))
  deriving Inhabited

abbrev TomlTable := List (String × TomlValue)

namespace TomlTable

/-- Puts a value in the place of the one that a key has. -/
def replace (t : TomlTable) (key : String) (value : TomlValue) : TomlTable :=
  t.map fun (k, v) => if k = key then (k, value) else (k, v)

/-- Gives a new key a value; a key that there is already is a fault. -/
def insertNew (t : TomlTable) (key : String) (value : TomlValue) : Option TomlTable :=
  match t.lookup key with
  | some _ => none
  | none => some (t ++ [(key, value)])

/-- Changes the table at the end of a path, making the tables on the way that are not there yet.
The path of a key (`dotted`) does not lead into tables that have headers of their own. -/
def changeAt (dotted : Bool) (change : TableOrigin → TomlTable → Option TomlTable) :
    (path : List String) → TableOrigin → TomlTable → Option TomlTable
  | [], origin, t => change origin t
  | key :: path, _, t =>
    match t.lookup key with
    | none => do
      let origin : TableOrigin := if dotted then .dottedKey else .superTable
      let inner ← changeAt dotted change path origin []
      return t ++ [(key, .table origin inner)]
    | some (.table origin inner) =>
      if origin = .inline ∨ (dotted = true ∧ origin = .header) then none
      else do
        let inner ← changeAt dotted change path origin inner
        return t.replace key (.table origin inner)
    | some (.array true items) =>
      match items.getLast? with
      | some (.table origin inner) => do
        let inner ← changeAt dotted change path origin inner
        return t.replace key (.array true (items.dropLast ++ [.table origin inner]))
      | _ => none
    | some _ => none

/-- Carries out `path.key = value`.  The last table of a path must be one that paths have made. -/
def insertPath (path : List String) (key : String) (value : TomlValue) (t : TomlTable) :
    Option TomlTable :=
  changeAt true
    (fun origin t => if path ≠ [] ∧ origin ≠ .dottedKey then none else t.insertNew key value)
    path .header t

/-- Carries out `[path.key]`.  A table gets one header; one that paths of headers have made may get
it late. -/
def openTable (path : List String) (key : String) (t : TomlTable) : Option TomlTable :=
  changeAt false
    (fun _ t =>
      match t.lookup key with
      | none => some (t ++ [(key, .table .header [])])
      | some (.table .superTable inner) => some (t.replace key (.table .header inner))
      | some _ => none)
    path .header t

/-- Carries out `[[path.key]]`, which adds an empty table to an array. -/
def openElement (path : List String) (key : String) (t : TomlTable) : Option TomlTable :=
  changeAt false
    (fun _ t =>
      match t.lookup key with
      | none => some (t ++ [(key, .array true [.table .header []])])
      | some (.array true items) =>
        some (t.replace key (.array true (items ++ [.table .header []])))
      | some _ => none)
    path .header t

/-- Carries out `path.key = value` below a header, whose path is `header`. -/
def insertBelow (header path : List String) (key : String) (value : TomlValue) (t : TomlTable) :
    Option TomlTable :=
  changeAt false (fun _ t => insertPath path key value t) header .header t

end TomlTable

end SpindleDrive
