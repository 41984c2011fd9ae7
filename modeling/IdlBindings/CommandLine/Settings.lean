/-
# IdlBindings.CommandLine.Settings: the settings of a command.

They are those of the configuration file, if one is named, with those of the command line on top.
-/
import IdlBindings.CommandLine.Basic
import IdlBindings.Files.Disk
import IdlBindings.Settings.File

namespace IdlBindings

/-! ## Faults -/

/-- Why settings could not be had. -/
inductive SettingsFault where
  | invalidPattern (fault : InvalidPattern)
  | invalidRename (fault : InvalidRename)
  | unreadable (path : String) (fault : FileFault)
  | malformed
  deriving DecidableEq

/-- The wording of a fault. -/
def SettingsFault.message : SettingsFault → String
  | invalidPattern fault => "Invalid pattern `" ++ fault.pattern ++ "`: regex parse error"
  | invalidRename fault => fault.message
  | unreadable path fault => "Failed to read config file " ++ path ++ ": " ++ fault.message
  | malformed => "Failed to parse config file: invalid document"

/-! ## Layers -/

/-- What a configuration file sets. -/
def ConfigFile.layer (contents : String) : Except SettingsFault SettingsLayer :=
  match ConfigFile.read? contents with
  | some layer => .ok layer
  | none => .error .malformed

/-- Settings with a layer on top. -/
def Settings.addLayer (settings : Settings) (layer : SettingsLayer) : Except SettingsFault Settings :=
  (settings.overlay layer).mapError SettingsFault.invalidPattern

namespace Invocation

/-- What a command sets besides the patterns on which definitions are kept. -/
def layer (invocation : Invocation) (renames : List (String × String)) : SettingsLayer where
  renames
  bail := if invocation.bail then some true else none
  merge := if invocation.noMerge then some false else if invocation.merge then some true else none
  out := invocation.out
  scope := invocation.scope
  suffix := invocation.suffix
  bundle := invocation.bundle

/-- Settings with those of a command on top.  An invalid pattern on which definitions are kept is reported
before a rule of renaming without a replacement. -/
def overlay (invocation : Invocation) (settings : Settings) : Except SettingsFault Settings := do
  let settings ← settings.addLayer { only := invocation.only, skip := invocation.skip }
  let renames ← (renamePairs invocation.renames).mapError SettingsFault.invalidRename
  settings.addLayer (invocation.layer renames)

/-- The settings of a command, given the contents of its configuration file. -/
def settingsOver (invocation : Invocation) : Option String → Except SettingsFault Settings
  | none => invocation.overlay {}
  | some contents => do
    let settings ← Settings.addLayer {} (← ConfigFile.layer contents)
    invocation.overlay settings

end Invocation

section

variable {m : Type → Type} [Monad m]

/-- The settings of a command. -/
def Invocation.settings (disk : Disk m) (invocation : Invocation) :
    m (Except SettingsFault Settings) := do
  match invocation.config with
  | none => pure (invocation.settingsOver none)
  | some path =>
    match ← disk.read path with
    | .ok contents => pure (invocation.settingsOver (some contents))
    | .error fault => pure (.error (.unreadable path fault))

end

end IdlBindings
