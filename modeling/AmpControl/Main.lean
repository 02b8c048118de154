import AmpControl.CommandLine

/-!
# The program

Files and streams around the commands: everything that a command shows or writes is decided before.
-/

open AmpControl AmpControl.CommandLine

/-- An error number of the system, which may be handed on with its sign turned. -/
def AmpControl.CommandLine.systemError (words : String) (code : UInt32) : String :=
  s!"{words} (os error {min code (0 - code)})"

/-- Why a file could not be read or written, in the words of the system. -/
def AmpControl.CommandLine.fileCause : IO.Error → String
  | .noFileOrDirectory _ code _ => systemError "No such file or directory" code
  | .permissionDenied _ code _ => systemError "Permission denied" code
  | other => toString other

/-- Shows what a command writes and returns how it ends. -/
def AmpControl.CommandLine.finish (outcome : Report.Outcome) : IO UInt32 := do
  (← IO.getStdout).putStr outcome.output
  (← IO.getStderr).putStr outcome.errors
  return outcome.code

/-- Ends a command that could not read or write a file. -/
def AmpControl.CommandLine.giveUp (attempt path : String) (error : IO.Error) : IO UInt32 :=
  finish (.failure "" (Report.errorTextBecause (attempt ++ " " ++ path) (fileCause error)))

/-- Ends a command that went well up to here by writing its file. -/
def AmpControl.CommandLine.deliver (path : String) (result : CommandLine.Result) : IO UInt32 := do
  match result.written with
  | none => finish result.outcome
  | some bytes =>
      try
        IO.FS.writeBinFile path ⟨bytes.toArray⟩
        finish result.outcome
      catch error => giveUp "writing" path error

/-- Carries out a command on the files that it names. -/
def AmpControl.CommandLine.perform (command : CommandLine.Command) : IO UInt32 := do
  match command with
  | .inspect path _ _ =>
      try
        let contents ← IO.FS.readBinFile path
        finish (command.carryOut contents.data.toList).outcome
      catch error => giveUp "reading" path error
  | .sample path _ => deliver path (command.carryOut [])

def main (arguments : List String) : IO UInt32 := do
  match CommandLine.read arguments with
  | .error error => finish error.outcome
  | .ok command => perform command
