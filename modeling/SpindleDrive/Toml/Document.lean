import SpindleDrive.Toml.Scalar

/-!
# TOML documents

A document is a sequence of lines; each is empty, gives a key a value, or is the header of a table.
Values go over lines only between brackets, braces or triple quotes; between braces lines may also
end on both sides of an equals sign, but never within a key.

* `Toml.readValue` — a value, nested up to a depth.
* `Toml.readStatement` — a line.
* `Toml.table?` — the table of a whole document, if it is one.

The table is put together as the statements are read, each keeping to the rules of `TomlTable`.
-/

namespace SpindleDrive

namespace Toml

/-! ## Blanks, comments and line ends -/

/-- Passes over the rest of a comment up to the line end. -/
def afterComment : List Char → Option (List Char)
  | [] => some []
  | '\n' :: rest => some ('\n' :: rest)
  | '\r' :: '\n' :: rest => some ('\n' :: rest)
  | c :: rest => if isControl c then none else afterComment rest

/-- Passes over a line end, with blanks and a comment before it; the end of the text is one too. -/
def afterLine (text : List Char) : Option (List Char) :=
  match text.dropWhile isBlank with
  | [] => some []
  | '\n' :: rest => some rest
  | '\r' :: '\n' :: rest => some rest
  | '#' :: rest => (afterComment rest).map (·.drop 1)
  | _ => none

/-- Passes over blanks, line ends and comments, as they may stand between brackets. -/
def afterFiller : (inComment : Bool) → List Char → Option (List Char)
  | _, [] => some []
  | _, '\n' :: rest => afterFiller false rest
  | _, '\r' :: '\n' :: rest => afterFiller false rest
  | true, c :: rest => if isControl c then none else afterFiller true rest
  | false, c :: rest =>
    if isBlank c then afterFiller false rest
    else if c = '#' then afterFiller true rest
    else some (c :: rest)

/-! ## Keys -/

/-- The characters of keys without quotes. -/
def isKeyChar (c : Char) : Bool := c.isAlphanum || c = '-' || c = '_'

/-- Reads one part of a key. -/
def readKeyPart : List Char → Option (WithRest String)
  | '"' :: rest => (basicText rest).map fun (key, rest) => (String.ofList key, rest)
  | '\'' :: rest => (literalText rest).map fun (key, rest) => (String.ofList key, rest)
  | text =>
    let key := text.takeWhile isKeyChar
    if key = [] then none else some (String.ofList key, text.dropWhile isKeyChar)

/-- Reads a key of up to `fuel` parts with points between them, and the blanks after it; gives the
last part and the path to it. -/
def readParts : (fuel : Nat) → List Char → Option (WithRest (List String × String))
  | 0, _ => none
  | fuel + 1, text => do
    let (part, rest) ← readKeyPart text
    match rest.dropWhile isBlank with
    | '.' :: rest =>
      let ((path, key), rest) ← readParts fuel (rest.dropWhile isBlank)
      return ((part :: path, key), rest)
    | rest => return (([], part), rest)

/-- The depth to which values may be nested, and the number of parts that a key may have. -/
def maxDepth : Nat := 80

def readKey (text : List Char) : Option (WithRest (List String × String)) :=
  readParts maxDepth text

/-! ## Values -/

/-- Reads a value that holds no other. -/
def readPlain (text : List Char) : Option (WithRest TomlValue) :=
  match quotedText text with
  | some (value, rest) => some (.text (String.ofList value), rest)
  | none => readScalar text

/-- Reads the values of an array of up to `fuel` values, after its bracket. -/
def readItems (value : List Char → Option (WithRest TomlValue)) :
    (fuel : Nat) → List Char → Option (WithRest (List TomlValue))
  | 0, _ => none
  | fuel + 1, text => do
    match ← afterFiller false text with
    | ']' :: rest => return ([], rest)
    | text =>
      let (item, rest) ← value text
      match ← afterFiller false rest with
      | ',' :: rest =>
        let (items, rest) ← readItems value fuel rest
        return (item :: items, rest)
      | ']' :: rest => return ([item], rest)
      | _ => none

/-- Reads a key, the equals sign and a value; `pass` passes over what may stand on both sides of the
equals sign. -/
def readPair (pass : List Char → Option (List Char))
    (value : List Char → Option (WithRest TomlValue)) (text : List Char) :
    Option (WithRest (List String × String × TomlValue)) := do
  let ((path, key), rest) ← readKey text
  let '=' :: rest ← pass rest | none
  let (v, rest) ← value (← pass rest)
  return ((path, key, v), rest)

/-- Reads the pairs of an inline table of up to `fuel` pairs, after its brace. -/
def readPairs (value : List Char → Option (WithRest TomlValue)) :
    (fuel : Nat) → TomlTable → List Char → Option (WithRest TomlTable)
  | 0, _, _ => none
  | fuel + 1, t, text => do
    match ← afterFiller false text with
    | '}' :: rest => return (t, rest)
    | text =>
      let ((path, key, v), rest) ← readPair (afterFiller false) value text
      let t ← t.insertPath path key v
      match ← afterFiller false rest with
      | ',' :: rest => readPairs value fuel t rest
      | '}' :: rest => return (t, rest)
      | _ => none

/-- Reads a value in which arrays and inline tables are nested up to `depth` deep. -/
def readValue : (depth : Nat) → List Char → Option (WithRest TomlValue)
  | 0 => fun text => readPlain text
  | depth + 1 => fun text =>
    match text with
    | '[' :: rest =>
      (readItems (readValue depth) text.length rest).map fun (items, rest) =>
        (.array false items, rest)
    | '{' :: rest =>
      (readPairs (readValue depth) text.length [] rest).map fun (entries, rest) =>
        (.table .inline entries, rest)
    | _ => readPlain text

/-! ## Statements -/

/-- What a line says. -/
inductive Statement where
  | blank
  | pair (path : List String) (key : String) (value : TomlValue)
  | tableHeader (path : List String) (key : String)
  | elementHeader (path : List String) (key : String)

/-- Reads a line without its end. -/
def readContent (text : List Char) : Option (WithRest Statement) :=
  match text.dropWhile isBlank with
  | '[' :: '[' :: rest => do
    let ((path, key), rest) ← readKey (rest.dropWhile isBlank)
    let ']' :: ']' :: rest := rest | none
    return (.elementHeader path key, rest)
  | '[' :: rest => do
    let ((path, key), rest) ← readKey (rest.dropWhile isBlank)
    let ']' :: rest := rest | none
    return (.tableHeader path key, rest)
  | c :: rest =>
    if c = '\n' ∨ c = '\r' ∨ c = '#' then some (.blank, c :: rest)
    else do
      let ((path, key, value), rest) ←
        readPair (some <| ·.dropWhile isBlank) (readValue maxDepth) (c :: rest)
      return (.pair path key value, rest)
  | [] => some (.blank, [])

/-- Reads a line with its end. -/
def readStatement (text : List Char) : Option (WithRest Statement) := do
  let (statement, rest) ← readContent text
  let rest ← afterLine rest
  return (statement, rest)

/-- Carries out a statement below the header that is in force; gives the header in force after
it. -/
def carryOut (header : List String) (t : TomlTable) : Statement → Option (List String × TomlTable)
  | .blank => some (header, t)
  | .pair path key value => (t.insertBelow header path key value).map (header, ·)
  | .tableHeader path key => (t.openTable path key).map (path ++ [key], ·)
  | .elementHeader path key => (t.openElement path key).map (path ++ [key], ·)

/-- Reads and carries out up to `fuel` lines. -/
def readLines : (fuel : Nat) → List String → TomlTable → List Char → Option TomlTable
  | 0, _, _, _ => none
  | _ + 1, _, t, [] => some t
  | fuel + 1, header, t, text => do
    let (statement, rest) ← readStatement text
    let (header, t) ← carryOut header t statement
    readLines fuel header t rest

/-- The text after a byte order mark, if there is one. -/
def afterMark : List Char → List Char
  | '\uFEFF' :: rest => rest
  | text => text

/-- The table of a document. -/
def table? (text : String) : Option TomlTable :=
  let text := afterMark text.toList
  readLines (text.length + 1) [] [] text

end Toml

end SpindleDrive
