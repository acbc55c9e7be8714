import ModelSchema.Command.Report

/-!
# The program

Runs the command that the arguments ask for on the files of the system.
-/

namespace ModelSchema

/-- The reason of the system, with its number. -/
def systemReason (details : String) (number : UInt32) : String :=
  s!"{details} (os error {number})"

/-- The reason of a refusal. -/
def refusalReason : IO.Error → String
  | .noFileOrDirectory _ number details => systemReason details number
  | .permissionDenied _ number details => systemReason details number
  | .inappropriateType _ number details => systemReason details number
  | .invalidArgument _ number details => systemReason details number
  | .resourceBusy number details => systemReason details number
  | .resourceExhausted _ number details => systemReason details number
  | .noSuchThing _ number details => systemReason details number
  | other => toString other

/-- Access to the files of the system. -/
def systemFiles : FileAccess IO where
  read path := do
    try
      match String.fromUTF8? (← IO.FS.readBinFile path) with
      | some text => return .ok text
      | none => return .error "stream did not contain valid UTF-8"
    catch error => return .error (refusalReason error)
  write path text := do
    try
      IO.FS.writeFile path text
      return .ok ()
    catch error => return .error (refusalReason error)

end ModelSchema

/-- Runs a command and shows its report. -/
def main (arguments : List String) : IO UInt32 := do
  let report ← ModelSchema.FileAccess.run ModelSchema.systemFiles arguments
  IO.print report.output
  IO.eprint report.problem
  return UInt32.ofNat report.status
