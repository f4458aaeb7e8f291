import SpindleDrive.CommandLine.Execution

/-!
# The program

Gives the command line access to the files of the system, and puts out what it leaves behind.
-/

namespace SpindleDrive

/-- The number of an error; some requests give it negated. -/
def systemErrorNumber (code : UInt32) : UInt32 :=
  if code < 0x80000000 then code else -code

/-- The fault with a number and a wording. -/
def FileFault.ofNumber (number : UInt32) (details : String) : FileFault :=
  if number = 2 then .missing
  else if number = 20 then .notDirectory
  else if number = 21 then .isDirectory
  else if number = 36 then .nameTooLong
  else .other (details.capitalize ++ " (os error " ++ toString number ++ ")")

/-- The fault that an error of the system is. -/
def FileFault.ofSystem : IO.Error → FileFault
  | .noFileOrDirectory _ code details | .permissionDenied _ code details
  | .inappropriateType _ code details | .invalidArgument _ code details
  | .resourceExhausted _ code details =>
    .ofNumber (systemErrorNumber code) details
  | e => .other (toString e)

/-- Catches the errors of the system. -/
def catchFault {α : Type} (action : IO α) : IO (Except FileFault α) := do
  match ← action.toBaseIO with
  | .ok a => return .ok a
  | .error e => return .error (.ofSystem e)

/-- Whether there is a file: it can be opened, or it is there and must not be opened. -/
def fileIsThere (path : String) : IO Bool := do
  match ← (IO.FS.Handle.mk path .read).toBaseIO with
  | .ok _ | .error (.permissionDenied ..) => return true
  | .error _ => return false

/-- Access to the files of the system. -/
def systemFiles : FileAccess IO where
  read path := catchFault (IO.FS.readBinFile path)
  contains := fileIsThere
  write path content := catchFault (IO.FS.writeBinFile path content)

end SpindleDrive

def main (args : List String) : IO UInt32 := do
  let outcome ← SpindleDrive.CommandLine.run SpindleDrive.systemFiles args
  (← IO.getStdout).putStr outcome.output
  (← IO.getStderr).putStr outcome.errorOutput
  return outcome.exitCode.toUInt32
