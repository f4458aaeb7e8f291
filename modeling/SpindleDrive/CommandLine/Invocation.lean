import SpindleDrive.CommandLine.Arguments
import SpindleDrive.Number.Decimal
import SpindleDrive.Preview
import SpindleDrive.Simulation.Run

/-!
# The commands of the command line

```
encode    [--state off|cw|ccw] [--rpm N] [--binding N] [--queries] [--reset-faults]
simulate  [--rpm N] [--ccw] [--ticks N] [--tick-ms N] [--tolerance N] [--fail N]
config    show | init [--force] [PATH] | check
```

Each takes the path of a configuration with `--config`, in front of the command or behind it; the
one farthest behind counts.

* `Command` — a command with its settings.
* `Invocation` — a command with the path of the configuration.
* `Invocation.ofArguments` — the invocation that the arguments are.
-/

namespace SpindleDrive

/-- What to do with configurations. -/
inductive ConfigCommand where
  | print
  | init (path : String) (force : Bool)
  | check
  deriving DecidableEq, Repr

/-- A command with its settings. -/
inductive Command where
  | encode (preview : Preview)
  | simulate (simulation : Simulation)
  | config (command : ConfigCommand)
  deriving DecidableEq, Repr

/-- A command with the path of the configuration; without one the default settings hold. -/
structure Invocation where
  configPath : Option String
  command : Command
  deriving DecidableEq, Repr

/-! ## Values -/

namespace ArgumentValue

/-- A natural number in decimal digits, at least one. -/
def digits? (text : List Char) : Option Nat :=
  if text ≠ [] ∧ text.all Char.isDigit then some (Nat.ofDigitChars 10 text 0) else none

/-- A natural number below a bound, with or without a plus. -/
def natBelow (bound : Nat) (text : String) : Option Nat := do
  let n ← digits? (match text.toList with
    | '+' :: digits => digits
    | digits => digits)
  if n < bound then some n else none

/-- The same where zero may have a minus. -/
def integerBelow (bound : Nat) (text : String) : Option Nat := do
  let (negative, digits) := Binary32.splitSign text.toList
  let n ← digits? digits
  if n < bound ∧ (negative = true → n = 0) then some n else none

def byte? (text : String) : Option UInt8 := (integerBelow (2 ^ 8) text).map UInt8.ofNat

def uint32? (text : String) : Option UInt32 := (integerBelow (2 ^ 32) text).map UInt32.ofNat

def uint64? (text : String) : Option UInt64 := (natBelow (2 ^ 64) text).map UInt64.ofNat

def path? (text : String) : Option String := if text = "" then none else some text

/-- A state by its name. -/
def state? (text : String) : Option SpindleState :=
  if text = "off" then some .off
  else if text = "cw" then some .cw
  else if text = "ccw" then some .counterClockwise
  else none

end ArgumentValue

namespace Invocation

open ArgumentValue

/-! ## What each command knows

The settings of a command go with the path of the configuration that was given last.
-/

/-- The settings of a command and the path of the configuration. -/
abbrev Settings (α : Type) := Option String × α

/-- An option whose value is one of the settings. -/
def valueOption {α β : Type} (name : String) (letter : Option Char) (read : String → Option β)
    (set : β → α → α) (allowsNegative : Bool) : CommandOption (Settings α) where
  name
  letter
  effect := .value allowsNegative fun text (path, a) => (read text).map fun b => (path, set b a)

/-- An option that turns one of the settings on. -/
def flagOption {α : Type} (name : String) (letter : Option Char) (set : α → α) :
    CommandOption (Settings α) where
  name
  letter
  effect := .flag fun (path, a) => (path, set a)

/-- The options that all commands know. -/
def commonOptions (α : Type) : List (CommandOption (Settings α)) :=
  [{ name := "config", letter := some 'c'
     effect := .value false fun text (_, a) => (path? text).map fun path => (some path, a) },
    { name := "help", letter := some 'h', effect := .stop .help }]

def encodeLevel : CommandLevel (Settings Preview) where
  options :=
    commonOptions Preview ++
    [valueOption "state" (some 's') state? (fun state p => { p with state }) false,
      valueOption "rpm" (some 'r') Binary32.ofText (fun rpm p => { p with rpm }) false,
      valueOption "binding" (some 'b') byte? (fun binding p => { p with binding }) false,
      flagOption "queries" none fun p => { p with queries := true },
      flagOption "reset-faults" none fun p => { p with resetFaults := true }]

def simulateLevel : CommandLevel (Settings Simulation) where
  options :=
    commonOptions Simulation ++
    [valueOption "rpm" (some 'r') Binary32.ofText (fun rpm s => { s with rpm }) false,
      flagOption "ccw" none fun s => { s with ccw := true },
      valueOption "ticks" (some 't') uint32? (fun ticks s => { s with ticks }) false,
      valueOption "tick-ms" none uint64? (fun tickLength s => { s with tickLength }) false,
      valueOption "tolerance" none Binary32.ofText (fun tolerance s => { s with tolerance }) true,
      valueOption "fail" none (natBelow (2 ^ 64)) (fun failures s => { s with failures }) false]

def plainLevel : CommandLevel (Settings Unit) where
  options := commonOptions Unit

/-- The file that is written when no path is given. -/
def defaultPath : String := "vfd.toml"

/-- The settings are the path to write to and whether a file there is given up. -/
def initLevel : CommandLevel (Settings (String × Bool)) where
  options :=
    commonOptions (String × Bool) ++
    [flagOption "force" (some 'f') fun (path, _) => (path, true)]
  operand := some fun text (config, (_, force)) =>
    (path? text).map fun path => (config, (path, force))

def configLevel : CommandLevel (Settings Unit) where
  options := commonOptions Unit
  commands := ["show", "init", "check", "help"]

def topLevel : CommandLevel (Settings Unit) where
  options :=
    commonOptions Unit ++
    [{ name := "version", letter := some 'V', effect := .stop .version }]
  commands := ["encode", "simulate", "config", "help"]

/-! ## Help on commands -/

/-- The commands on which there is help. -/
def helpTopics : List (List String) :=
  [[], ["encode"], ["simulate"], ["config"], ["config", "show"], ["config", "init"],
    ["config", "check"], ["config", "help"], ["help"]]

/-- The end of a help command. -/
def helpOn {α : Type} (topic : List String) : Except ScanStop α :=
  .error (if topic ∈ helpTopics then .help else .misuse)

/-! ## All together -/

/-- Takes in the arguments behind `config`. -/
def configCommand (path : Option String) (args : List String) : Except ScanStop Invocation := do
  let ⟨(path, _), below⟩ ← configLevel.scan (path, ()) args
  match below with
  | some ("show", rest) =>
    let ⟨(path, _), _⟩ ← plainLevel.scan (path, ()) rest
    return ⟨path, .config .print⟩
  | some ("init", rest) =>
    let ⟨(path, (target, force)), _⟩ ← initLevel.scan (path, (defaultPath, false)) rest
    return ⟨path, .config (.init target force)⟩
  | some ("check", rest) =>
    let ⟨(path, _), _⟩ ← plainLevel.scan (path, ()) rest
    return ⟨path, .config .check⟩
  | some ("help", topic) => helpOn ("config" :: topic)
  | _ => throw .misuse

/-- The invocation that the arguments are, without the name of the program. -/
def ofArguments (args : List String) : Except ScanStop Invocation := do
  let ⟨(path, _), below⟩ ← topLevel.scan (none, ()) args
  match below with
  | some ("encode", rest) =>
    let ⟨(path, preview), _⟩ ← encodeLevel.scan (path, {}) rest
    return ⟨path, .encode preview⟩
  | some ("simulate", rest) =>
    let ⟨(path, simulation), _⟩ ← simulateLevel.scan (path, {}) rest
    return ⟨path, .simulate simulation⟩
  | some ("config", rest) => configCommand path rest
  | some ("help", topic) => helpOn topic
  | _ => throw .misuse

end Invocation

end SpindleDrive
