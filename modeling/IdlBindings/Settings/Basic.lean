/-
# IdlBindings.Settings.Basic: the settings of a run.

Settings are built in layers: the defaults, then a configuration file, then the command line.  A layer
adds patterns behind those of the layer before and overrides everything else that it states.  Patterns
are compiled in the order only, skip, rename, and the first invalid one is reported.
-/
import IdlBindings.Selection
import IdlBindings.Target.Basic

namespace IdlBindings

/-- The settings of a run. -/
structure Settings where
  selection : Selection := {}
  /-- Whether the first document that cannot be read ends the run. -/
  bail : Bool := false
  /-- Whether fragments of one name are merged. -/
  merge : Bool := true
  /-- The directory that files are written to. -/
  out : String := "."
  options : RenderOptions := {}

/-- One layer of settings, as written. -/
structure SettingsLayer where
  only : List String := []
  skip : List String := []
  /-- Patterns with their replacements. -/
  renames : List (String × String) := []
  bail : Option Bool := none
  merge : Option Bool := none
  out : Option String := none
  scope : Option String := none
  suffix : Option String := none
  bundle : Option String := none

/-- A pattern that is not valid. -/
structure InvalidPattern where
  pattern : String
  deriving DecidableEq

/-- Compiles a pattern. -/
def compilePattern (pattern : String) : Except InvalidPattern Pattern :=
  match Pattern.compile? pattern with
  | some compiled => .ok compiled
  | none => .error ⟨pattern⟩

/-- Compiles a rule of renaming. -/
def compileRename (rule : String × String) : Except InvalidPattern RenameRule := do
  let pattern ← compilePattern rule.1
  pure ⟨pattern, rule.2⟩

/-- Settings with a layer on top. -/
def Settings.overlay (settings : Settings) (layer : SettingsLayer) :
    Except InvalidPattern Settings := do
  let only ← layer.only.mapM compilePattern
  let skip ← layer.skip.mapM compilePattern
  let renames ← layer.renames.mapM compileRename
  pure {
    selection := {
      only := settings.selection.only ++ only
      skip := settings.selection.skip ++ skip
      renames := settings.selection.renames ++ renames }
    bail := layer.bail.getD settings.bail
    merge := layer.merge.getD settings.merge
    out := layer.out.getD settings.out
    options := {
      scope := layer.scope.getD settings.options.scope
      suffix := layer.suffix.getD settings.options.suffix
      bundle := layer.bundle.getD settings.options.bundle } }

/-- A pattern without a replacement. -/
structure InvalidRename where
  pattern : String
  deriving DecidableEq

/-- The wording of the refusal. -/
def InvalidRename.message (refusal : InvalidRename) : String :=
  "Invalid rename: `" ++ refusal.pattern ++ "` has no replacement"

/-- The pairs of a list in which patterns and replacements alternate. -/
def renamePairs : List String → Except InvalidRename (List (String × String))
  | [] => .ok []
  | [pattern] => .error ⟨pattern⟩
  | pattern :: replacement :: rest => do
    let pairs ← renamePairs rest
    pure ((pattern, replacement) :: pairs)

end IdlBindings
