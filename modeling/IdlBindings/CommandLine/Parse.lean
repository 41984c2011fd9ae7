/-
# IdlBindings.CommandLine.Parse: arguments as commands.

A setting waits for its values, and they are looked at when the next switch or document comes.  So of
two faults the one of an unknown switch can come first.  Behind two hyphens all arguments are documents.
-/
import IdlBindings.CommandLine.Basic

namespace IdlBindings

namespace CommandLine

/-! ## Forms of arguments -/

/-- The form of an argument. -/
inductive Form where
  /-- Two hyphens alone. -/
  | separator
  /-- Two hyphens and a name, and a value behind an equals sign. -/
  | long (name : String) (value : Option String)
  /-- A hyphen and letters. -/
  | short (letters : List Char)
  | other
  deriving DecidableEq

/-- The form of an argument. -/
def formOf (argument : String) : Form :=
  match argument.toList with
  | ['-', '-'] => .separator
  | '-' :: '-' :: cs =>
    let name := String.ofList (cs.takeWhile (· != '='))
    match cs.dropWhile (· != '=') with
    | _ :: value => .long name (some (String.ofList value))
    | [] => .long name none
  | '-' :: c :: cs => .short (c :: cs)
  | _ => .other

/-! ## Arguments of a command -/

/-- A command as far as it is read. -/
structure Progress where
  invocation : Invocation := {}
  /-- The setting that waits, with its values. -/
  pending : Option (Setting × List String) := none

/-- Looks at the values of the setting that waits. -/
def Progress.settle (progress : Progress) : Except UsageFault Invocation :=
  match progress.pending with
  | some (setting, values) => progress.invocation.set setting values
  | none => .ok progress.invocation

/-- Sets a flag. -/
def Progress.flag (progress : Progress) (flag : Flag) : Except UsageFault Progress := do
  let invocation ← progress.settle
  pure { invocation := ← invocation.setFlag flag }

/-- A setting, with its value if that is attached. -/
def Progress.setting (progress : Progress) (setting : Setting) :
    Option String → Except UsageFault Progress
  | some value => do
    let invocation ← progress.settle
    pure { invocation := ← invocation.set setting [value] }
  | none => do
    let invocation ← progress.settle
    pure { invocation, pending := some (setting, []) }

/-- A switch with a long name. -/
def Progress.long (progress : Progress) (target : Target) (name : String) (value : Option String) :
    Except UsageFault Progress :=
  match target.switch? name, value with
  | none, _ => .error .unknownArgument
  | some (.flag _), some _ => .error .tooManyValues
  | some (.flag flag), none => progress.flag flag
  | some (.setting setting), value => progress.setting setting value

/-- Flags with letters. -/
def Progress.short (progress : Progress) : List Char → Except UsageFault Progress
  | [] => .ok progress
  | c :: rest =>
    match shortFlag? c with
    | none => .error .unknownArgument
    | some flag => do
      let progress ← progress.flag flag
      progress.short rest

/-- A document. -/
def Progress.input (progress : Progress) (argument : String) : Except UsageFault Progress := do
  let invocation ← progress.settle
  pure { invocation := { invocation with inputs := invocation.inputs ++ [argument] } }

/-- A value of the setting that waits, or a document. -/
def Progress.value (progress : Progress) (argument : String) : Except UsageFault Progress :=
  match progress.pending with
  | some (setting, values) =>
    if values.length < setting.arity then
      .ok { progress with pending := some (setting, values ++ [argument]) }
    else progress.input argument
  | none => progress.input argument

/-- Reads the arguments of a command. -/
def Progress.read (target : Target) (progress : Progress) :
    List String → Except UsageFault Progress
  | [] => .ok progress
  | argument :: rest =>
    match formOf argument with
    | .separator => rest.foldlM Progress.input progress
    | .long name value => do
      let progress ← progress.long target name value
      progress.read target rest
    | .short letters => do
      let progress ← progress.short letters
      progress.read target rest
    | .other => do
      let progress ← progress.value argument
      progress.read target rest

/-- A command.  It has at least one document. -/
def readCommand (target : Target) (arguments : List String) : Except UsageFault Invocation := do
  let progress ← Progress.read target {} arguments
  let invocation ← progress.settle
  if invocation.inputs.isEmpty then throw .missingRequiredArgument
  pure invocation

/-! ## All arguments -/

/-- Whether an argument is the name of a command or of help. -/
def isCommandName (argument : String) : Bool :=
  argument == "help" || (commands.lookup argument).isSome

/-- What help is about: nothing, a command, or help itself. -/
def helpOn : List String → UsageFault
  | [] => .displayHelp
  | [name] => if isCommandName name then .displayHelp else .invalidSubcommand
  | _ => .invalidSubcommand

/-- What two hyphens in front of everything else lead to. -/
def separated : List String → UsageFault
  | [] => .displayHelpOnMissingCommand
  | argument :: _ => if isCommandName argument then .unknownArgument else .invalidSubcommand

/-- A switch in front of a command. -/
def leadingSwitch : Form → UsageFault
  | .long name value =>
    if name = "help" ∨ name = "version" then
      match value with
      | some _ => .tooManyValues
      | none => if name = "help" then .displayHelp else .displayVersion
    else .unknownArgument
  | .short ('h' :: _) => .displayHelp
  | .short ('V' :: _) => .displayVersion
  | _ => .unknownArgument

/-- Reads all arguments. -/
def parse : List String → Except UsageFault (Target × Invocation)
  | [] => .error .displayHelpOnMissingCommand
  | argument :: rest =>
    match commands.lookup argument, formOf argument with
    | some target, _ => do
      let invocation ← readCommand target rest
      pure (target, invocation)
    | none, .separator => .error (separated rest)
    | none, .other => .error (if argument = "help" then helpOn rest else .invalidSubcommand)
    | none, form => .error (leadingSwitch form)

end CommandLine

end IdlBindings
