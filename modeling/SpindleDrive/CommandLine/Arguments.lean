/-!
# The arguments of a command

A command is followed by options, by at most one operand, and by at most one command below it, to
which the rest of the arguments belongs.  An option is `--name` or a letter after a hyphen, with
its value in the next argument or in the same one: `--name value`, `--name=value`, `-l value`,
`-lvalue`, `-l=value`.  Letters without values can share a hyphen.

* `CommandOption`, `CommandLevel` — what a command knows, over the settings that it collects.
* `ScanStop` — why arguments are not taken in.
* `CommandLevel.scan` — takes the arguments from the left to the right; an option may be given once.

An argument that starts with a hyphen is never a value, but for a lone hyphen and, where an option
allows them, negative numbers.  After `--` all arguments are operands.
-/

namespace SpindleDrive

/-- Why arguments are not taken in. -/
inductive ScanStop where
  | misuse
  | help
  | version
  deriving DecidableEq, Repr

/-- What an option does to the settings of type `σ`. -/
inductive OptionEffect (σ : Type) where
  | flag (set : σ → σ)
  /-- Reads a value; one that cannot be used gives nothing. -/
  | value (allowsNegative : Bool) (set : String → σ → Option σ)
  | stop (reason : ScanStop)

structure CommandOption (σ : Type) where
  name : String
  letter : Option Char
  effect : OptionEffect σ

/-- What a command knows. -/
structure CommandLevel (σ : Type) where
  options : List (CommandOption σ)
  operand : Option (String → σ → Option σ) := none
  commands : List String := []

/-- What the arguments of a command come to: its settings, and the command below with the
arguments that are left for it. -/
structure ScanResult (σ : Type) where
  settings : σ
  below : Option (String × List String)

/-- How far a scan is. -/
structure ScanState (σ : Type) where
  settings : σ
  given : List String := []
  /-- The option whose value is to come: whether it may be negative, and where it goes. -/
  awaited : Option (Bool × (String → σ → Option σ)) := none
  operandGiven : Bool := false
  /-- Whether everything left is an operand. -/
  operandsOnly : Bool := false

/-! ## Negative numbers -/

/-- Whether a text is a number without a sign: digits, a point that is not in front, and an
exponent that is neither in front nor at the end. -/
def isUnsignedNumber (text : List Char) : Bool :=
  let whole := text.takeWhile Char.isDigit
  let rest := text.dropWhile Char.isDigit
  let rest :=
    match rest with
    | '.' :: rest => if whole = [] then '.' :: rest else rest.dropWhile Char.isDigit
    | rest => rest
  match rest with
  | [] => true
  | c :: rest => text.head? ≠ some c && (c = 'e' || c = 'E') && rest ≠ [] && rest.all Char.isDigit

/-! ## Scanning -/

namespace ScanState

variable {σ : Type}

/-- Carries a setting out; a value that cannot be used is misuse. -/
def enter (st : ScanState σ) (settings : Option σ) : Except ScanStop (ScanState σ) :=
  match settings with
  | some settings => .ok { st with settings, awaited := none }
  | none => .error .misuse

/-- Marks an option as given. -/
def mark (st : ScanState σ) (name : String) : Except ScanStop (ScanState σ) :=
  if name ∈ st.given then .error .misuse else .ok { st with given := name :: st.given }

/-- Takes an option, with a value if one is attached. -/
def takeOption (st : ScanState σ) (option : CommandOption σ) (attached : Option String) :
    Except ScanStop (ScanState σ) :=
  match option.effect, attached with
  | .stop reason, none => .error reason
  | .flag set, none => do
    let st ← st.mark option.name
    st.enter (set st.settings)
  | .value allowsNegative set, none => do
    let st ← st.mark option.name
    return { st with awaited := some (allowsNegative, set) }
  | .value _ set, some text => do
    let st ← st.mark option.name
    st.enter (set text st.settings)
  | _, some _ => .error .misuse

end ScanState

namespace CommandLevel

variable {σ : Type}

/-- Takes the text after two hyphens. -/
def takeName (level : CommandLevel σ) (st : ScanState σ) (text : List Char) :
    Except ScanStop (ScanState σ) :=
  let name := String.ofList (text.takeWhile (· ≠ '='))
  let attached :=
    match text.dropWhile (· ≠ '=') with
    | '=' :: value => some (String.ofList value)
    | _ => none
  match level.options.find? (·.name = name) with
  | some option => st.takeOption option attached
  | none => .error .misuse

/-- Takes the letters after a hyphen. -/
def takeLetters (level : CommandLevel σ) (st : ScanState σ) :
    List Char → Except ScanStop (ScanState σ)
  | [] => .ok st
  | c :: rest =>
    match level.options.find? (·.letter = some c) with
    | none => .error .misuse
    | some option =>
      match option.effect, rest with
      | .value .., [] => st.takeOption option none
      | .value .., '=' :: value => st.takeOption option (some (String.ofList value))
      | .value .., value => st.takeOption option (some (String.ofList value))
      | _, rest => do
        let st ← st.takeOption option none
        level.takeLetters st rest

def takeOperand (level : CommandLevel σ) (st : ScanState σ) (arg : String) :
    Except ScanStop (ScanState σ) :=
  match level.operand with
  | some set =>
    if st.operandGiven || st.awaited.isSome then .error .misuse
    else ({ st with operandGiven := true }).enter (set arg st.settings)
  | none => .error .misuse

/-- Takes an argument that is not the name of a command below. -/
def takeArgument (level : CommandLevel σ) (st : ScanState σ) (arg : String) :
    Except ScanStop (ScanState σ) :=
  if st.operandsOnly then level.takeOperand st arg
  else
    match st.awaited, arg.toList with
    | _, ['-', '-'] => .ok { st with operandsOnly := true }
    | none, '-' :: '-' :: text => level.takeName st text
    | none, '-' :: c :: text => level.takeLetters st (c :: text)
    | none, _ => level.takeOperand st arg
    | some (allowsNegative, set), '-' :: c :: text =>
      if allowsNegative && isUnsignedNumber (c :: text) then st.enter (set arg st.settings)
      else .error .misuse
    | some (_, set), _ => st.enter (set arg st.settings)

/-- Whether an argument is the name of a command below. -/
def startsCommand (level : CommandLevel σ) (st : ScanState σ) (arg : String) : Bool :=
  !st.operandsOnly && st.awaited.isNone && level.commands.contains arg

/-- Takes arguments from the left to the right. -/
def scanFrom (level : CommandLevel σ) (st : ScanState σ) :
    List String → Except ScanStop (ScanResult σ)
  | [] => if st.awaited.isSome then .error .misuse else .ok ⟨st.settings, none⟩
  | arg :: rest =>
    if level.startsCommand st arg then .ok ⟨st.settings, some (arg, rest)⟩
    else do
      let st ← level.takeArgument st arg
      level.scanFrom st rest

/-- Takes the arguments of a command, which starts with the given settings. -/
def scan (level : CommandLevel σ) (settings : σ) (args : List String) :
    Except ScanStop (ScanResult σ) :=
  level.scanFrom { settings } args

end CommandLevel

end SpindleDrive
