import SpindleDrive.CommandLine.Invocation
import SpindleDrive.Config.Document
import SpindleDrive.Number.Text

/-!
# Carrying out the commands

* `Outcome` — what a run of the program leaves behind: its output, its error output and its exit
  code.
* `Failure` — a failure with its causes, and its wording.
* `Invocation.execute` — carries out a command, given access to files.
* `CommandLine.run` — the whole program.

The commands are functions of the configuration; only the configuration file and the file that
`config init` writes are touched.
-/

namespace SpindleDrive

/-! ## Outcomes -/

/-- What a run of the program leaves behind. -/
structure Outcome where
  exitCode : UInt8 := 0
  output : String := ""
  errorOutput : String := ""
  deriving DecidableEq, Repr

/-- A failure: what went wrong and what lies behind it, the outermost first. -/
structure Failure where
  message : String
  causes : List String := []
  deriving DecidableEq, Repr

namespace Failure

def ofConfigError (e : ConfigError) : Failure := ⟨e.message, e.causes.drop 1⟩

/-- Adds what was attempted. -/
def within (f : Failure) (attempted : String) : Failure := ⟨attempted, f.message :: f.causes⟩

/-- The message and its causes on one line. -/
def chain (f : Failure) : String := ": ".intercalate (f.message :: f.causes)

/-- The list of causes: a single one stands alone, and several are numbered from zero. -/
def causeLines : List String → List String
  | [] => []
  | [cause] => ["", "Caused by:", "    " ++ cause]
  | causes =>
    ["", "Caused by:"] ++ causes.zipIdx.map fun (cause, i) =>
      let number := toString i
      "".pushn ' ' (5 - number.length) ++ number ++ ": " ++ cause

def text (f : Failure) : String :=
  "\n".intercalate (("Error: " ++ f.message) :: causeLines f.causes) ++ "\n"

def outcome (f : Failure) (output : String) : Outcome :=
  { exitCode := 1, output, errorOutput := f.text }

end Failure

/-- Lines of output. -/
def unlines (lines : List String) : String := String.join (lines.map (· ++ "\n"))

def padRight (width : Nat) (text : String) : String := text.pushn ' ' (width - text.length)

def padLeft (width : Nat) (text : String) : String := "".pushn ' ' (width - text.length) ++ text

/-! ## Requests -/

namespace Preview

/-- The drive and its conversion. -/
def headLine (p : Preview) (c : Config) (scale : SpeedScale) : String :=
  "📟 " ++ c.model.title ++ " @ address " ++ toString (c.modbusAddress p.binding) ++ " (" ++
    scale.rpmPerHz.toText ++ " RPM/Hz, resolution " ++ scale.quantum.toFixed 2 ++ " RPM)"

/-- A request with the length of its reply. -/
def requestLine (r : Request) : String :=
  padRight 12 r.kind.name ++ " " ++ r.frame.toText ++ "  (reply " ++ toString r.replyLength ++
    " bytes)"

/-- The speed that the drive makes of the one asked for. -/
def codeLine (p : Preview) (scale : SpeedScale) : String :=
  let code := scale.toCode p.rpm
  "frequency code " ++ toString code ++ " -> " ++ (scale.toSpeed code).toFixed 1 ++ " RPM"

/-- What is shown of a command. -/
def lines (p : Preview) (c : Config) : Except ConfigError (List String) := do
  let scale ← c.speedScale
  let requests ← p.requests c
  return p.headLine c scale :: requests.map requestLine ++ [p.codeLine scale]

end Preview

/-! ## Simulated runs -/

namespace SimulationReport

def pollLine (number : Nat) (poll : Poll) : String :=
  let state := poll.state
  "[" ++ padLeft 3 (toString number) ++ "] on=" ++ toString state.on ++ " ccw=" ++
    toString state.ccw ++ " at_speed=" ++ toString state.atSpeed ++ " rpm=" ++ poll.rpm.toFixed 1

/-- What was seen in a run. -/
def lines (r : SimulationReport) : List String :=
  let maxSpeed :=
    match r.maxSpeed with
    | some rpm => ["max speed: " ++ rpm.toFixed 0 ++ " RPM"]
    | none => []
  let polls := r.polls.zipIdx.map fun (poll, number) => pollLine number poll
  let verdict :=
    if 0 < r.alarms then "⚠️  spindle alarms raised: " ++ toString r.alarms
    else "✅ session finished without alarms"
  maxSpeed ++ polls ++ [verdict]

end SimulationReport

namespace Simulation

/-- Why a run could not start. -/
def failure (e : DriverError) : Failure := ⟨"注册主轴失败", e.causes⟩

def headLine (c : Config) : String :=
  "🔌 " ++ c.model.title ++ " @ address " ++ toString (c.modbusAddress 0)

def outcome (sim : Simulation) (c : Config) : Outcome :=
  let head := headLine c
  match sim.run c with
  | .error e => (failure e).outcome (unlines [head])
  | .ok none => { output := unlines [head] }
  | .ok (some report) => { output := unlines (head :: report.lines) }

end Simulation

/-! ## Configurations -/

namespace Config

/-- What is shown of a valid configuration. -/
def summary (c : Config) (scale : SpeedScale) : List String :=
  ["✅ 配置有效",
    "  型号: " ++ c.model.title ++ " " ++ c.model.version,
    "  分辨率: " ++ scale.quantum.toFixed 2 ++ " RPM",
    "  重试上限: " ++ toString c.retries,
    "  轮询间隔: " ++ toString c.pollInterval ++ " ms",
    "  地址: " ++ Toml.ofNats (c.addresses.map UInt8.toNat)]

/-- Validates a configuration and shows it. -/
def check (c : Config) : Except ConfigError (List String) := do
  c.validate
  return c.summary (← c.speedScale)

end Config

/-- The outcome of lines or of the lack of a usable configuration. -/
def outcomeOfLines : Except ConfigError (List String) → Outcome
  | .ok lines => { output := unlines lines }
  | .error e => (Failure.ofConfigError e).outcome ""

namespace CommandLine

variable {m : Type → Type} [Monad m]

/-- Writes the default configuration, unless there is a file that is not to be given up. -/
def writeDefault (files : FileAccess m) (path : String) (force : Bool) : m Outcome := do
  if (← files.contains path) && !force then
    return Failure.outcome ⟨path ++ " 已存在（使用 --force 覆盖）", []⟩ ""
  match ← files.write path (Config.toText {}).toUTF8 with
  | .ok () => return { output := unlines ["✅ 已写入默认配置: " ++ path] }
  | .error fault => return Failure.outcome ⟨"写入配置文件失败", [fault.message]⟩ ""

/-- Carries out a command with a configuration. -/
def execute (files : FileAccess m) (c : Config) : Command → m Outcome
  | .encode preview => return outcomeOfLines (preview.lines c)
  | .simulate simulation => return simulation.outcome c
  | .config .print => return { output := c.toText }
  | .config (.init path force) => writeDefault files path force
  | .config .check => return outcomeOfLines c.check

/-- The configuration of a path, and the default one without a path. -/
def loadConfig (files : FileAccess m) : Option String → m (Except Failure Config)
  | none => return .ok {}
  | some path => do
    let content ← files.read path
    return (Config.ofContent content).mapError fun e =>
      (Failure.ofConfigError e).within ("加载配置文件失败: " ++ path)

/-- What is printed when the arguments cannot be taken in, or when help is asked for. -/
def usage : String :=
  unlines
    ["Usage: vfd-cli [-c PATH] COMMAND",
      "",
      "  encode    [-s off|cw|ccw] [-r RPM] [-b BINDING] [--queries] [--reset-faults]",
      "  simulate  [-r RPM] [--ccw] [-t TICKS] [--tick-ms MS] [--tolerance PERCENT] [--fail COUNT]",
      "  config    show | init [-f] [PATH] | check"]

def versionLine : String := "vfd-cli 0.0.3"

/-- The program: takes the arguments in, loads the configuration and carries out the command. -/
def run (files : FileAccess m) (args : List String) : m Outcome := do
  match Invocation.ofArguments args with
  | .error .help => return { output := usage }
  | .error .version => return { output := unlines [versionLine] }
  | .error .misuse => return { exitCode := 2, errorOutput := usage }
  | .ok invocation =>
    match ← loadConfig files invocation.configPath with
    | .error failure => return failure.outcome ""
    | .ok c => execute files c invocation.command

end CommandLine

end SpindleDrive
