import ModelSchema.Command.Arguments
import ModelSchema.Command.Basic

/-!
# Reports of commands

Running a command leaves a report: a status, and texts for the reader.  The status is 0 if all went
well, 1 if the command failed or found violations, and 2 if the arguments are wrong.
-/

namespace ModelSchema

/-- What a run leaves. -/
structure Report where
  status : Nat
  output : String
  problem : String
deriving DecidableEq, Repr

namespace Report

/-- The name and number of the program. -/
def version : String := "jsm 0.1.0\n"

/-- How the program is used. -/
def usage : String := "\n".intercalate [
  "Usage: jsm <COMMAND>", "",
  "Commands:",
  "  compile <MANIFEST> --model <MODEL> [--compact] [--output <OUTPUT>]",
  "  validate <MANIFEST> --model <MODEL> <DOCUMENT>",
  "  list <MANIFEST>", "",
  "Options:",
  "  -h, --help",
  "  -V, --version", ""]

/-- A run that went well. -/
def done (output : String) : Report := ⟨0, output, ""⟩

/-- The number of a cause, if there are several. -/
def causeLine (single : Bool) (cause : String × Nat) : String :=
  if single then s!"\n    {cause.1}" else s!"\n    {cause.2}: {cause.1}"

/-- The text of an error with its causes. -/
def problemText : List String → String
  | [] => ""
  | [message] => s!"Error: {message}\n"
  | message :: causes =>
    s!"Error: {message}\n\nCaused by:" ++
      String.join (causes.zipIdx.map (causeLine (causes.length == 1))) ++ "\n"

/-- A run that failed. -/
def failed (error : CommandError) : Report := ⟨1, "", problemText error.chain⟩

/-- The report on the violations of a document against a model. -/
def ofViolations (model document : String) (violations : List Violation) : Report :=
  if violations.isEmpty then done s!"{document}: valid {model}\n"
  else
    let count := violations.length
    ⟨1, s!"{document}: {count} violation(s) against {model}\n" ++
      Violations.display violations ++ "\n", ""⟩

/-- The first line of the text on what went wrong, if there is any. -/
def firstProblem? (report : Report) : Option String :=
  if report.problem.isEmpty then none
  else some (String.ofList (report.problem.toList.takeWhile (· ≠ '\n')))

end Report

namespace FileAccess

variable {m : Type → Type} [Monad m]

/-- Carries out a command. -/
def perform (files : FileAccess m) : Command → ExceptT CommandError m Report
  | .compile manifest model compact none => do
    return .done ((← files.rendered manifest model compact) ++ "\n")
  | .compile manifest model compact (some output) => do
    files.renderTo manifest model compact output
    return .done ""
  | .validate manifest model document => do
    return .ofViolations model document (← files.violations manifest model document)
  | .list manifest => do
    let lines := (← files.summaries manifest).map fun summary => summary.display ++ "\n"
    return .done (String.join lines)

/-- Does what arguments ask for. -/
def run (files : FileAccess m) (arguments : List String) : m Report :=
  match Request.ofArguments? arguments with
  | none => return ⟨2, "", Report.usage⟩
  | some .help => return .done Report.usage
  | some .version => return .done Report.version
  | some (.command command) => do
    match ← (files.perform command).run with
    | .ok report => return report
    | .error error => return .failed error

end FileAccess

end ModelSchema
