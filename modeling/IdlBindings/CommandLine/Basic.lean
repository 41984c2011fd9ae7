/-
# IdlBindings.CommandLine.Basic: commands, flags and options.

A command names a target.  It is followed by documents, flags and options in any order.  A flag stands
alone; an option has a value, or two.
-/
import IdlBindings.Report.Format

namespace IdlBindings

/-! ## Refusals -/

/-- Why arguments are not run as a command. -/
inductive UsageFault where
  | invalidValue
  | unknownArgument
  | invalidSubcommand
  | wrongNumberOfValues
  | tooManyValues
  | argumentConflict
  | missingRequiredArgument
  /-- Help was asked for. -/
  | displayHelp
  /-- There is no command, so help is shown. -/
  | displayHelpOnMissingCommand
  /-- The version was asked for. -/
  | displayVersion
  deriving DecidableEq

/-! ## Names -/

/-- The commands. -/
def commands : List (String × Target) :=
  [("cpp", .cpp), ("flow", .flow), ("js", .javascript), ("extract", .idl)]

/-- Arguments without a value. -/
inductive Flag where
  | bail
  | merge
  | noMerge
  | verbose
  | help
  deriving DecidableEq

/-- Arguments with a value. -/
inductive Setting where
  | out
  | rename
  | only
  | skip
  | config
  | report
  | scope
  | suffix
  | bundle
  deriving DecidableEq

/-- How many values a setting takes at a time. -/
def Setting.arity : Setting → Nat
  | rename => 2
  | _ => 1

/-- A flag or a setting. -/
inductive Switch where
  | flag (flag : Flag)
  | setting (setting : Setting)
  deriving DecidableEq

/-- The switches that all commands have. -/
def commonSwitches : List (String × Switch) :=
  [("out", .setting .out), ("rename", .setting .rename), ("only", .setting .only),
   ("skip", .setting .skip), ("bail", .flag .bail), ("merge", .flag .merge),
   ("no-merge", .flag .noMerge), ("config", .setting .config), ("report", .setting .report),
   ("verbose", .flag .verbose), ("help", .flag .help)]

/-- The switches of a target of its own. -/
def Target.switches : Target → List (String × Switch)
  | .cpp => [("namespace", .setting .scope), ("suffix", .setting .suffix)]
  | .javascript => [("bundle", .setting .bundle)]
  | .flow | .idl => []

/-- The switch of a name. -/
def Target.switch? (target : Target) (name : String) : Option Switch :=
  (commonSwitches ++ target.switches).lookup name

/-- The flag of a letter. -/
def shortFlag? : Char → Option Flag
  | 'v' => some .verbose
  | 'h' => some .help
  | _ => none

/-- The formats of reports by name. -/
def reportFormats : List (String × ReportFormat) :=
  [("console", .console), ("json", .json), ("yaml", .yaml)]

/-! ## Commands as given -/

/-- A command with what follows it. -/
structure Invocation where
  inputs : List String := []
  /-- Patterns and replacements in turn. -/
  renames : List String := []
  only : List String := []
  skip : List String := []
  bail : Bool := false
  merge : Bool := false
  noMerge : Bool := false
  verbose : Bool := false
  out : Option String := none
  config : Option String := none
  report : Option ReportFormat := none
  scope : Option String := none
  suffix : Option String := none
  bundle : Option String := none

namespace Invocation

/-- A value that may be given once. -/
def once {α : Type} (earlier : Option α) (value : Except UsageFault α) :
    Except UsageFault (Option α) :=
  match earlier with
  | some _ => .error .argumentConflict
  | none => value.map some

/-- A flag that may be given once. -/
def flagOnce (earlier : Bool) : Except UsageFault Bool :=
  if earlier then .error .argumentConflict else .ok true

/-- A path.  It is not empty. -/
def pathValue (text : String) : Except UsageFault String :=
  if text.isEmpty then .error .invalidValue else .ok text

/-- The format of a name. -/
def formatValue (text : String) : Except UsageFault ReportFormat :=
  match reportFormats.lookup text with
  | some format => .ok format
  | none => .error .invalidValue

/-- Sets a flag.  Of the two flags on merging the later one counts. -/
def setFlag (invocation : Invocation) : Flag → Except UsageFault Invocation
  | .bail => do pure { invocation with bail := ← flagOnce invocation.bail }
  | .verbose => do pure { invocation with verbose := ← flagOnce invocation.verbose }
  | .merge => do pure { invocation with merge := ← flagOnce invocation.merge, noMerge := false }
  | .noMerge => do pure { invocation with noMerge := ← flagOnce invocation.noMerge, merge := false }
  | .help => .error .displayHelp

/-- Sets a setting to its values.  Lists grow; everything else may be given once. -/
def set (invocation : Invocation) (setting : Setting) (values : List String) :
    Except UsageFault Invocation := do
  if values.isEmpty then throw .invalidValue
  if values.length ≠ setting.arity then throw .wrongNumberOfValues
  let value := values.headD ""
  match setting with
  | .rename => pure { invocation with renames := invocation.renames ++ values }
  | .only => pure { invocation with only := invocation.only ++ values }
  | .skip => pure { invocation with skip := invocation.skip ++ values }
  | .out => pure { invocation with out := ← once invocation.out (pathValue value) }
  | .config => pure { invocation with config := ← once invocation.config (pathValue value) }
  | .report => pure { invocation with report := ← once invocation.report (formatValue value) }
  | .scope => pure { invocation with scope := ← once invocation.scope (.ok value) }
  | .suffix => pure { invocation with suffix := ← once invocation.suffix (.ok value) }
  | .bundle => pure { invocation with bundle := ← once invocation.bundle (.ok value) }

end Invocation

end IdlBindings
