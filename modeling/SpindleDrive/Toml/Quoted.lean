/-!
# Quoted TOML text

Text stands between one or three double quotes, where a backslash escapes, or between one or three
single quotes, where it does not.  Text between three quotes may go over lines, and may hold one or
two quotes in a row, also at its very end.

Every reader takes the text after the opening quotes and gives what is quoted and what follows the
closing quotes.
-/

namespace SpindleDrive

namespace Toml

/-- Blanks within a line. -/
def isBlank (c : Char) : Bool := c = ' ' || c = '\t'

/-- Characters that may not stand anywhere: the controls but for the tabulator. -/
def isControl (c : Char) : Bool :=
  (decide (c.toNat < 0x20) && c != '\t') || c.toNat == 0x7F

/-- What a reader gives when it succeeds: a result and the text after it. -/
abbrev WithRest (α : Type) := α × List Char

/-- Puts characters in front of what is read. -/
def prepend (cs : List Char) : Option (WithRest (List Char)) → Option (WithRest (List Char))
  | some (text, rest) => some (cs ++ text, rest)
  | none => none

/-! ## Escapes -/

def hexValue? (c : Char) : Option Nat :=
  if c.isDigit then some (c.toNat - '0'.toNat)
  else if 'a' ≤ c ∧ c ≤ 'f' then some (c.toNat - 'a'.toNat + 10)
  else if 'A' ≤ c ∧ c ≤ 'F' then some (c.toNat - 'A'.toNat + 10)
  else none

/-- The character with the given hexadecimal number, if there is one. -/
def codePoint? (digits : List Char) : Option Char := do
  let n ← digits.foldlM (fun n c => (hexValue? c).map (n * 16 + ·)) 0
  if n.isValidChar then some (Char.ofNat n) else none

/-- The character that a backslash and a letter stand for. -/
def escaped? : Char → Option Char
  | 'b' => some '\x08'
  | 't' => some '\t'
  | 'n' => some '\n'
  | 'f' => some '\x0C'
  | 'r' => some '\r'
  | 'e' => some '\x1B'
  | '"' => some '"'
  | '\\' => some '\\'
  | _ => none

/-- Puts the character with a hexadecimal number in front of what is read. -/
def prependCodePoint (digits : List Char) (text : Option (WithRest (List Char))) :
    Option (WithRest (List Char)) :=
  match codePoint? digits with
  | some c => prepend [c] text
  | none => none

/-- Whether nothing but blanks are left in the line. -/
def atLineEnd (text : List Char) : Bool :=
  match text.dropWhile isBlank with
  | '\n' :: _ => true
  | '\r' :: '\n' :: _ => true
  | _ => false

/-! ## Double quotes -/

/-- Reads text up to a double quote. -/
def basicText : List Char → Option (WithRest (List Char))
  | [] => none
  | '"' :: rest => some ([], rest)
  | '\\' :: 'x' :: a :: b :: rest => prependCodePoint [a, b] (basicText rest)
  | '\\' :: 'u' :: a :: b :: c :: d :: rest => prependCodePoint [a, b, c, d] (basicText rest)
  | '\\' :: 'U' :: a :: b :: c :: d :: e :: f :: g :: h :: rest =>
    prependCodePoint [a, b, c, d, e, f, g, h] (basicText rest)
  | '\\' :: c :: rest =>
    match escaped? c with
    | some c => prepend [c] (basicText rest)
    | none => none
  | c :: rest => if isControl c || c = '\\' then none else prepend [c] (basicText rest)

/-- Reads text over lines up to three double quotes.  While `trim` is set, blanks and line ends are
passed over: a backslash at the end of a line sets it. -/
def longBasicText : (trim : Bool) → List Char → Option (WithRest (List Char))
  | _, [] => none
  | _, '"' :: '"' :: '"' :: '"' :: '"' :: rest => some (['"', '"'], rest)
  | _, '"' :: '"' :: '"' :: '"' :: rest => some (['"'], rest)
  | _, '"' :: '"' :: '"' :: rest => some ([], rest)
  | _, '\\' :: 'x' :: a :: b :: rest => prependCodePoint [a, b] (longBasicText false rest)
  | _, '\\' :: 'u' :: a :: b :: c :: d :: rest =>
    prependCodePoint [a, b, c, d] (longBasicText false rest)
  | _, '\\' :: 'U' :: a :: b :: c :: d :: e :: f :: g :: h :: rest =>
    prependCodePoint [a, b, c, d, e, f, g, h] (longBasicText false rest)
  | _, '\\' :: c :: rest =>
    if atLineEnd (c :: rest) then longBasicText true (c :: rest)
    else
      match escaped? c with
      | some c => prepend [c] (longBasicText false rest)
      | none => none
  | trim, '\r' :: '\n' :: rest =>
    if trim then longBasicText true rest else prepend ['\n'] (longBasicText false rest)
  | trim, c :: rest =>
    if trim && (isBlank c || c = '\n') then longBasicText true rest
    else if (isControl c && c != '\n') || c = '\\' then none
    else prepend [c] (longBasicText false rest)

/-! ## Single quotes -/

/-- Reads text up to a single quote. -/
def literalText : List Char → Option (WithRest (List Char))
  | [] => none
  | '\'' :: rest => some ([], rest)
  | c :: rest => if isControl c then none else prepend [c] (literalText rest)

/-- Reads text over lines up to three single quotes. -/
def longLiteralText : List Char → Option (WithRest (List Char))
  | [] => none
  | '\'' :: '\'' :: '\'' :: '\'' :: '\'' :: rest => some (['\'', '\''], rest)
  | '\'' :: '\'' :: '\'' :: '\'' :: rest => some (['\''], rest)
  | '\'' :: '\'' :: '\'' :: rest => some ([], rest)
  | '\r' :: '\n' :: rest => prepend ['\n'] (longLiteralText rest)
  | c :: rest =>
    if isControl c && c != '\n' then none else prepend [c] (longLiteralText rest)

/-- Passes over the line end right after the opening quotes. -/
def dropFirstLineEnd : List Char → List Char
  | '\n' :: rest => rest
  | '\r' :: '\n' :: rest => rest
  | text => text

/-- Reads quoted text of any kind, with its opening quotes. -/
def quotedText : List Char → Option (WithRest (List Char))
  | '"' :: '"' :: '"' :: rest => longBasicText false (dropFirstLineEnd rest)
  | '"' :: rest => basicText rest
  | '\'' :: '\'' :: '\'' :: rest => longLiteralText (dropFirstLineEnd rest)
  | '\'' :: rest => literalText rest
  | _ => none

end Toml

end SpindleDrive
