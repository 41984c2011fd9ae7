/-
# IdlBindings.CommandLine.Run: the command line from arguments to outcome.
-/
import IdlBindings.CommandLine.Parse
import IdlBindings.CommandLine.Settings
import IdlBindings.Run.Generate

namespace IdlBindings

/-- What a command leaves behind besides files. -/
structure Outcome where
  exit : UInt32
  stdout : String := ""
  stderr : String := ""

namespace CommandLine

/-! ## Texts -/

/-- The name and the version. -/
def versionLine : String :=
  "idl-bindgen 0.3.0\n"

/-- How commands are written. -/
def usage : String :=
  "Generate C++, Flow and JavaScript bindings from WebIDL documents\n\n"
    ++ "Usage: idl-bindgen <COMMAND> [OPTIONS] <INPUTS>...\n\n"
    ++ "Commands:\n"
    ++ "  cpp      Generate a C++ header and source file per definition\n"
    ++ "  flow     Generate a Flow type declaration per definition\n"
    ++ "  js       Generate one JavaScript module documenting every definition\n"
    ++ "  extract  Write the merged definitions back out as IDL\n"
    ++ "  help     Print this message\n"

/-- The outcome of arguments that are not run as a command. -/
def refusal : UsageFault → Outcome
  | .displayHelp => { exit := 0, stdout := usage }
  | .displayVersion => { exit := 0, stdout := versionLine }
  | _ => { exit := 2, stderr := usage }

/-- A line on a failure. -/
def failureLine (message : String) : String :=
  "\n❌ Error: " ++ message ++ "\n"

/-- The outcome of a run. -/
def outcomeOf (format : ReportFormat) : Except RunFault RunResult → Outcome
  | .error fault =>
    { exit := 1, stderr := failureLine fault.message ++ "\nNo files were written.\n" }
  | .ok result => { exit := 0, stdout := result.report.format format ++ "\n" }

/-! ## Runs -/

variable {m : Type → Type} [Monad m]

/-- Runs a command. -/
def runCommand (disk : Disk m) (network : Network m) (target : Target) (invocation : Invocation) :
    m Outcome := do
  match ← invocation.settings disk with
  | .error fault => pure { exit := 1, stderr := failureLine fault.message }
  | .ok settings =>
    let result ← generate disk settings target (invocation.inputs.map Locator.ofString) network
    pure (outcomeOf (invocation.report.getD .console) result)

/-- Runs the command line. -/
def run (disk : Disk m) (arguments : List String) (network : Network m := .offline) : m Outcome :=
  match parse arguments with
  | .error fault => pure (refusal fault)
  | .ok (target, invocation) => runCommand disk network target invocation

end CommandLine

end IdlBindings
