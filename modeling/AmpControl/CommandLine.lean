import AmpControl.Report.Sample

/-!
# The command line

Two commands are known: one inspects an image, the other writes the sample image.

    inspect IMAGE [--revision N] [--json]
    sample-blob FILE [--revision N]

Reading a command line decides everything about a command but the contents of files.
-/

namespace AmpControl.CommandLine

open Report (Outcome lines)

/-- A command. -/
inductive Command where
  | inspect (path : String) (revision : UInt32) (asDocument : Bool)
  | sample (path : String) (revision : Option UInt32)
  deriving DecidableEq, Repr

/-- Why a command line is refused. -/
inductive UsageError where
  | badRevision (given reason : String)
  | missingValue (option : String)
  | unexpected (argument : String)
  | missingPath
  | unknownCommand (name : String)
  | noCommand
  deriving DecidableEq, Repr

def UsageError.message : UsageError → String
  | badRevision given reason =>
      "invalid value '" ++ given ++ "' for '--revision <REVISION>': " ++ reason
  | missingValue option =>
      "a value is required for '" ++ option ++ " <REVISION>' but none was supplied"
  | unexpected argument => "unexpected argument '" ++ argument ++ "' found"
  | missingPath => "the following required arguments were not provided: a file"
  | unknownCommand name => "unrecognized subcommand '" ++ name ++ "'"
  | noCommand => "a subcommand is required: inspect or sample-blob"

def UsageError.outcome (error : UsageError) : Outcome where
  code := 2
  output := ""
  errors := lines ["error: " ++ error.message, "", "For more information, try '--help'."]

/-- The value of a decimal number with or without a sign. -/
def integer? (given : String) : Option Int :=
  let digits? (digits : List Char) : Option Nat :=
    if digits.isEmpty ∨ ¬digits.all Char.isDigit then none
    else some (digits.foldl (fun value digit => 10 * value + (digit.toNat - 48)) 0)
  match given.toList with
  | '-' :: digits => (digits? digits).map fun value => -(value : Int)
  | '+' :: digits => (digits? digits).map Int.ofNat
  | digits => (digits? digits).map Int.ofNat

def revision (given : String) : Except UsageError UInt32 :=
  match integer? given with
  | none =>
      .error (.badRevision given
        (if given.isEmpty then "cannot parse integer from empty string"
          else "invalid digit found in string"))
  | some value =>
      if value < Int64.minValue.toInt then
        .error (.badRevision given "number too small to fit in target type")
      else if Int64.maxValue.toInt < value then
        .error (.badRevision given "number too large to fit in target type")
      else if value < 0 ∨ UInt32.size ≤ value then
        .error (.badRevision given s!"{value} is not in 0..=4294967295")
      else .ok (UInt32.ofNat value.toNat)

/-- The arguments of a command, as far as they were read. -/
structure Arguments where
  path : Option String
  revision : Option UInt32
  asDocument : Bool
  deriving DecidableEq, Repr

namespace Arguments

def none : Arguments := ⟨.none, .none, false⟩

/-- Reads arguments, of which `--json` is known only where `documents` says so. -/
def read (documents : Bool) : Arguments → List String → Except UsageError Arguments
  | read, [] => .ok read
  | _, ["--revision"] => .error (.missingValue "--revision")
  | held, "--revision" :: given :: others => do
      let id ← CommandLine.revision given
      read documents { held with revision := some id } others
  | held, argument :: others =>
      if argument = "--json" ∧ documents then
        read documents { held with asDocument := true } others
      else if argument.startsWith "-" ∨ held.path.isSome then .error (.unexpected argument)
      else read documents { held with path := some argument } others

def file (arguments : Arguments) : Except UsageError String :=
  match arguments.path with
  | some path => .ok path
  | .none => .error .missingPath

end Arguments

def read : List String → Except UsageError Command
  | "inspect" :: arguments => do
      let held ← Arguments.read true Arguments.none arguments
      return .inspect (← held.file) (held.revision.getD 0) held.asDocument
  | "sample-blob" :: arguments => do
      let held ← Arguments.read false Arguments.none arguments
      return .sample (← held.file) held.revision
  | name :: _ => .error (.unknownCommand name)
  | [] => .error .noCommand

/-- What a command is given and what it leaves: its outcome, and the file that it writes if any. -/
structure Result where
  outcome : Outcome
  written : Option Bytes
  deriving DecidableEq, Repr

namespace Command

/-- Carries out a command, given the contents of the file that it reads. -/
def carryOut (command : Command) (contents : Bytes) : Result :=
  match command with
  | inspect _ revision asDocument => ⟨Report.inspect contents revision asDocument, none⟩
  | sample path revision =>
      let outcome := Report.Sample.report path revision
      ⟨outcome, if outcome.code = 0 then some (Report.Sample.image revision) else none⟩

end Command

end AmpControl.CommandLine
