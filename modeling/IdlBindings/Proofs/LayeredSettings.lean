/-
# IdlBindings.Proofs.LayeredSettings: settings from a file and from a command.

A command that could be read is well formed: its rules of renaming come in pairs, at most one of the flags on merging
is set, and only settings of its target are given.  This holds of the command read so far after each argument, so it
holds in the end.  If moreover all patterns compile, a layer has a meaning that does not depend on what is below it.
The settings of a run then follow from those of its two layers, each taken alone.
-/
import IdlBindings.CommandLine.Parse
import IdlBindings.CommandLine.Settings
import IdlBindings.Proofs.Collecting

namespace IdlBindings

/-! ## Commands that were read -/

/-- Whether a command has a setting. -/
def Target.Offers (target : Target) (setting : Setting) : Prop :=
  Switch.setting setting ∈ (commonSwitches ++ target.switches).map Prod.snd

instance (target : Target) (setting : Setting) : Decidable (target.Offers setting) :=
  inferInstanceAs (Decidable (_ ∈ _))

/-- The target of a setting that not all targets have. -/
def Setting.owner? : Setting → Option Target
  | .scope | .suffix => some .cpp
  | .bundle => some .javascript
  | .out | .only | .skip | .rename | .config | .report => none

namespace Target

variable {target : Target}

theorem offers_of_switch? {name : String} {setting : Setting}
    (found : target.switch? name = some (.setting setting)) : target.Offers setting := by
  obtain ⟨before, after, split, -⟩ := List.lookup_eq_some_iff.1 found
  rw [Offers, split]
  simp

/-- A setting that belongs to one target is offered by no other. -/
theorem offers_iff {setting : Setting} : target.Offers setting ↔ ∀ owner ∈ setting.owner?, target = owner := by
  cases target <;> cases setting <;> decide

end Target

namespace Invocation

/-- A command as it is declared: rules of renaming are pairs, the flags on merging exclude each other, and the
settings of one target are not given for another. -/
structure Declared (target : Target) (invocation : Invocation) : Prop where
  paired : Even invocation.renames.length
  exclusive : invocation.merge = true → invocation.noMerge = false
  scope : target ≠ .cpp → invocation.scope = none
  suffix : target ≠ .cpp → invocation.suffix = none
  bundle : target ≠ .javascript → invocation.bundle = none

variable {target : Target} {invocation invocation' : Invocation}

theorem declared_empty (target : Target) : Declared target {} :=
  ⟨by decide, fun set => absurd set Bool.false_ne_true, fun _ => rfl, fun _ => rfl, fun _ => rfl⟩

theorem Declared.setFlag {flag : Flag} (declared : invocation.Declared target)
    (added : invocation.setFlag flag = .ok invocation') : invocation'.Declared target := by
  obtain ⟨paired, exclusive, scope, suffix, bundle⟩ := declared
  cases flag with
  | help => cases added
  | bail | verbose =>
    obtain ⟨_, -, added⟩ := bind_eq_ok.1 added
    cases added
    exact ⟨paired, exclusive, scope, suffix, bundle⟩
  | merge =>
    obtain ⟨_, -, added⟩ := bind_eq_ok.1 added
    cases added
    exact ⟨paired, fun _ => rfl, scope, suffix, bundle⟩
  | noMerge =>
    obtain ⟨_, -, added⟩ := bind_eq_ok.1 added
    cases added
    exact ⟨paired, fun set => absurd set Bool.false_ne_true, scope, suffix, bundle⟩

theorem length_of_set {setting : Setting} {values : List String}
    (added : invocation.set setting values = .ok invocation') : values.length = setting.arity := by
  by_contra wrong
  rw [Invocation.set] at added
  split at added <;> cases added

theorem Declared.set {setting : Setting} {values : List String} (declared : invocation.Declared target)
    (offered : target.Offers setting) (added : invocation.set setting values = .ok invocation') :
    invocation'.Declared target := by
  have length := length_of_set added
  -- Every setting takes a value, so a setting without one was refused.
  have filled : values.isEmpty ≠ true := by
    cases values with
    | nil => cases setting <;> cases length
    | cons => exact Bool.false_ne_true
  obtain ⟨paired, exclusive, scope, suffix, bundle⟩ := declared
  simp only [Invocation.set, if_neg filled, if_neg (not_not.2 length)] at added
  cases setting with
  | rename =>
    cases added
    refine ⟨?_, exclusive, scope, suffix, bundle⟩
    rw [List.length_append, length]
    exact paired.add (by decide)
  | only | skip =>
    cases added
    exact ⟨paired, exclusive, scope, suffix, bundle⟩
  | out | config | report =>
    obtain ⟨_, -, added⟩ := bind_eq_ok.1 added
    cases added
    exact ⟨paired, exclusive, scope, suffix, bundle⟩
  | scope =>
    obtain ⟨_, -, added⟩ := bind_eq_ok.1 added
    cases added
    exact ⟨paired, exclusive, fun other => absurd (Target.offers_iff.1 offered .cpp rfl) other, suffix, bundle⟩
  | suffix =>
    obtain ⟨_, -, added⟩ := bind_eq_ok.1 added
    cases added
    exact ⟨paired, exclusive, scope, fun other => absurd (Target.offers_iff.1 offered .cpp rfl) other, bundle⟩
  | bundle =>
    obtain ⟨_, -, added⟩ := bind_eq_ok.1 added
    cases added
    exact ⟨paired, exclusive, scope, suffix,
      fun other => absurd (Target.offers_iff.1 offered .javascript rfl) other⟩

end Invocation

namespace CommandLine

namespace Progress

/-- A command as far as it is read: it is declared so far, and the setting that waits is one of the target. -/
structure Declared (target : Target) (progress : Progress) : Prop where
  invocation : progress.invocation.Declared target
  pending : ∀ waiting ∈ progress.pending, target.Offers waiting.1

variable {target : Target} {progress progress' : Progress} {invocation : Invocation}

theorem Declared.settle (declared : progress.Declared target) (settled : progress.settle = .ok invocation) :
    invocation.Declared target := by
  rw [Progress.settle] at settled
  split at settled
  case h_1 setting values waiting =>
    exact declared.invocation.set (declared.pending _ waiting) settled
  case h_2 =>
    cases settled
    exact declared.invocation

theorem Declared.flag {flag : Flag} (declared : progress.Declared target)
    (added : progress.flag flag = .ok progress') : progress'.Declared target := by
  obtain ⟨settled, settles, added⟩ := bind_eq_ok.1 added
  obtain ⟨invocation, sets, added⟩ := bind_eq_ok.1 added
  cases added
  exact ⟨(declared.settle settles).setFlag sets, by simp⟩

theorem Declared.setting {setting : Setting} {value : Option String} (declared : progress.Declared target)
    (offered : target.Offers setting) (added : progress.setting setting value = .ok progress') :
    progress'.Declared target := by
  cases value with
  | some value =>
    obtain ⟨settled, settles, added⟩ := bind_eq_ok.1 added
    obtain ⟨invocation, sets, added⟩ := bind_eq_ok.1 added
    cases added
    exact ⟨(declared.settle settles).set offered sets, by simp⟩
  | none =>
    obtain ⟨settled, settles, added⟩ := bind_eq_ok.1 added
    cases added
    exact ⟨declared.settle settles, by simpa using offered⟩

theorem Declared.long {name : String} {value : Option String} (declared : progress.Declared target)
    (added : progress.long target name value = .ok progress') : progress'.Declared target := by
  rw [Progress.long.eq_def] at added
  split at added
  case h_1 => cases added
  case h_2 => cases added
  case h_3 => exact declared.flag added
  case h_4 found => exact declared.setting (Target.offers_of_switch? found) added

theorem Declared.short {letters : List Char} (declared : progress.Declared target)
    (added : progress.short letters = .ok progress') : progress'.Declared target := by
  induction letters generalizing progress with
  | nil =>
    cases added
    exact declared
  | cons c rest ih =>
    rw [Progress.short] at added
    split at added
    · cases added
    · obtain ⟨next, flagged, added⟩ := bind_eq_ok.1 added
      exact ih (declared.flag flagged) added

theorem Declared.input {argument : String} (declared : progress.Declared target)
    (added : progress.input argument = .ok progress') : progress'.Declared target := by
  obtain ⟨settled, settles, added⟩ := bind_eq_ok.1 added
  cases added
  obtain ⟨paired, exclusive, scope, suffix, bundle⟩ := declared.settle settles
  exact ⟨⟨paired, exclusive, scope, suffix, bundle⟩, by simp⟩

theorem Declared.inputs {arguments : List String} (declared : progress.Declared target)
    (added : arguments.foldlM Progress.input progress = .ok progress') : progress'.Declared target := by
  induction arguments generalizing progress with
  | nil =>
    cases added
    exact declared
  | cons argument rest ih =>
    obtain ⟨next, taken, added⟩ := bind_eq_ok.1 added
    exact ih (declared.input taken) added

theorem Declared.value {argument : String} (declared : progress.Declared target)
    (added : progress.value argument = .ok progress') : progress'.Declared target := by
  rw [Progress.value] at added
  split at added
  case h_1 setting values waiting =>
    split at added
    · cases added
      exact ⟨declared.invocation, by simpa using declared.pending _ waiting⟩
    · exact declared.input added
  case h_2 => exact declared.input added

/-- A command is declared after each argument. -/
theorem Declared.read {arguments : List String} (declared : progress.Declared target)
    (added : progress.read target arguments = .ok progress') : progress'.Declared target := by
  induction arguments generalizing progress with
  | nil =>
    cases added
    exact declared
  | cons argument rest ih =>
    rw [Progress.read] at added
    split at added
    case h_1 => exact declared.inputs added
    case h_2 =>
      obtain ⟨next, taken, added⟩ := bind_eq_ok.1 added
      exact ih (declared.long taken) added
    case h_3 =>
      obtain ⟨next, taken, added⟩ := bind_eq_ok.1 added
      exact ih (declared.short taken) added
    case h_4 =>
      obtain ⟨next, taken, added⟩ := bind_eq_ok.1 added
      exact ih (declared.value taken) added

end Progress

theorem declared_of_parse {arguments : List String} {target : Target} {invocation : Invocation}
    (parsed : parse arguments = .ok (target, invocation)) : invocation.Declared target := by
  rw [parse.eq_def] at parsed
  split at parsed
  · cases parsed
  · split at parsed
    case h_1 =>
      obtain ⟨command, commanded, parsed⟩ := bind_eq_ok.1 parsed
      cases parsed
      obtain ⟨progress, read, commanded⟩ := bind_eq_ok.1 commanded
      obtain ⟨settled, settles, commanded⟩ := bind_eq_ok.1 commanded
      split at commanded
      · cases commanded
      · cases commanded
        exact (Progress.Declared.read ⟨Invocation.declared_empty target, by simp⟩ read).settle settles
    case h_2 => cases parsed
    case h_3 => cases parsed
    case h_4 => cases parsed

end CommandLine

/-! ## Patterns that compile -/

theorem Pattern.source_of_compile? {text : String} {pattern : Pattern} (compiled : compile? text = some pattern) :
    pattern.source = text := by
  obtain ⟨_, -, compiled⟩ := Option.bind_eq_some_iff.1 compiled
  obtain ⟨_, -, compiled⟩ := Option.bind_eq_some_iff.1 compiled
  split at compiled
  · cases compiled
    rfl
  · cases compiled

/-- The first pattern, as written, that a test accepts. -/
def firstPattern? (patterns : List String) (test : Pattern → Bool) : Option String :=
  patterns.find? fun text => (Pattern.compile? text).any test

theorem firstPattern?_eq (patterns : List String) (test : Pattern → Bool) :
    ((patterns.filterMap Pattern.compile?).find? test).map (·.source) = firstPattern? patterns test := by
  rw [List.find?_filterMap, firstPattern?]
  cases found : patterns.find? fun text => (Pattern.compile? text).any test with
  | none => rfl
  | some text =>
    have accepted := List.find?_some found
    obtain ⟨pattern, compiled, -⟩ := (Option.any_eq_true ..).1 accepted
    rw [Option.bind_some, compiled, Option.map_some, Pattern.source_of_compile? compiled]

/-- The patterns of a list in which patterns and replacements alternate. -/
def renamePatterns : List String → List String
  | [] => []
  | [pattern] => [pattern]
  | pattern :: _ :: rest => pattern :: renamePatterns rest

/-- A definition with a rule, as written, applied to all its names. -/
def Definition.renameBy (d : Definition) (rule : String × String) : Definition :=
  match Pattern.compile? rule.1 with
  | some pattern => d.mapNames (pattern.replaceAll rule.2)
  | none => d

/-! ## Layers -/

deriving instance DecidableEq for SettingsLayer

namespace SettingsLayer

/-- All patterns of a layer. -/
def patterns (layer : SettingsLayer) : List String :=
  layer.only ++ layer.skip ++ layer.renames.map Prod.fst

/-- What a layer selects. -/
def selection (layer : SettingsLayer) : Selection where
  only := layer.only.filterMap Pattern.compile?
  skip := layer.skip.filterMap Pattern.compile?
  renames := layer.renames.filterMap fun rule => (Pattern.compile? rule.1).map (⟨·, rule.2⟩)

end SettingsLayer

theorem mapM_compilePattern {patterns : List String}
    (valid : ∀ pattern ∈ patterns, (Pattern.compile? pattern).isSome = true) :
    patterns.mapM compilePattern = .ok (patterns.filterMap Pattern.compile?) := by
  induction patterns with
  | nil => rfl
  | cons text rest ih =>
    rw [List.forall_mem_cons] at valid
    obtain ⟨pattern, compiled⟩ := Option.isSome_iff_exists.1 valid.1
    rw [List.mapM_cons, ih valid.2, compilePattern, compiled, List.filterMap_cons_some compiled]
    rfl

theorem mapM_compileRename {rules : List (String × String)}
    (valid : ∀ pattern ∈ rules.map Prod.fst, (Pattern.compile? pattern).isSome = true) :
    rules.mapM compileRename
      = .ok (rules.filterMap fun rule => (Pattern.compile? rule.1).map (⟨·, rule.2⟩)) := by
  induction rules with
  | nil => rfl
  | cons rule rest ih =>
    rw [List.map_cons, List.forall_mem_cons] at valid
    obtain ⟨pattern, compiled⟩ := Option.isSome_iff_exists.1 valid.1
    rw [List.mapM_cons, ih valid.2, compileRename, compilePattern, compiled,
      List.filterMap_cons_some (by rw [compiled]; rfl)]
    rfl

namespace Selection

/-- Two selections, one after the other. -/
def append (first second : Selection) : Selection where
  only := first.only ++ second.only
  skip := first.skip ++ second.skip
  renames := first.renames ++ second.renames

theorem keeps_append (first second : Selection) (name : String) :
    (first.append second).keeps name = (first.keeps name && second.keeps name) := by
  simp only [keeps, append, List.all_append, List.any_append, Bool.not_or]
  ac_rfl

theorem rename_append (first second : Selection) (d : Definition) :
    (first.append second).rename d = second.rename (first.rename d) := by
  simp only [rename, append, List.foldl_append]

theorem dropReason?_eq (selection : Selection) (name : String) :
    selection.dropReason? name
      = ((selection.only.find? fun p => !p.isMatch name).map (DropReason.notMatchingOnly ·.source)
        <|> (selection.skip.find? fun p => p.isMatch name).map (DropReason.matchedSkip ·.source)) := by
  rw [dropReason?]
  cases selection.only.find? fun p => !p.isMatch name <;> rfl

theorem dropReason?_append (first second : Selection) (name : String) :
    (first.append second).dropReason? name
      = ((first.only.find? fun p => !p.isMatch name).map (DropReason.notMatchingOnly ·.source)
        <|> (second.only.find? fun p => !p.isMatch name).map (DropReason.notMatchingOnly ·.source)
        <|> (first.skip.find? fun p => p.isMatch name).map (DropReason.matchedSkip ·.source)
        <|> (second.skip.find? fun p => p.isMatch name).map (DropReason.matchedSkip ·.source)) := by
  simp only [dropReason?_eq, append, List.find?_append, Option.map_or, Option.orElse_eq_orElse, Option.orElse_eq_or,
    Option.or_assoc]

end Selection

namespace SettingsLayer

theorem only_selection (layer : SettingsLayer) (test : Pattern → Bool) :
    (layer.selection.only.find? test).map (DropReason.notMatchingOnly ·.source)
      = (firstPattern? layer.only test).map .notMatchingOnly := by
  rw [← firstPattern?_eq, Option.map_map]
  rfl

theorem skip_selection (layer : SettingsLayer) (test : Pattern → Bool) :
    (layer.selection.skip.find? test).map (DropReason.matchedSkip ·.source)
      = (firstPattern? layer.skip test).map .matchedSkip := by
  rw [← firstPattern?_eq, Option.map_map]
  rfl

theorem rename_selection (layer : SettingsLayer) (d : Definition) :
    layer.selection.rename d = layer.renames.foldl Definition.renameBy d := by
  rw [Selection.rename, selection]
  generalize layer.renames = rules
  induction rules generalizing d with
  | nil => rfl
  | cons rule rest ih =>
    cases compiled : Pattern.compile? rule.1 with
    | none =>
      rw [List.filterMap_cons_none (by rw [compiled]; rfl), ih, List.foldl_cons, Definition.renameBy, compiled]
    | some pattern =>
      rw [List.filterMap_cons_some (by rw [compiled]; rfl), List.foldl_cons, ih, List.foldl_cons,
        Definition.renameBy, compiled]
      rfl

end SettingsLayer

/-- Settings with a layer on top, if all patterns of the layer compile. -/
def Settings.withLayer (settings : Settings) (layer : SettingsLayer) : Settings where
  selection := settings.selection.append layer.selection
  bail := layer.bail.getD settings.bail
  merge := layer.merge.getD settings.merge
  out := layer.out.getD settings.out
  options := {
    scope := layer.scope.getD settings.options.scope
    suffix := layer.suffix.getD settings.options.suffix
    bundle := layer.bundle.getD settings.options.bundle }

theorem Settings.addLayer_eq {layer : SettingsLayer}
    (valid : ∀ pattern ∈ layer.patterns, (Pattern.compile? pattern).isSome = true) (settings : Settings) :
    settings.addLayer layer = .ok (settings.withLayer layer) := by
  simp only [SettingsLayer.patterns, List.forall_mem_append] at valid
  rw [addLayer, overlay, mapM_compilePattern valid.1.1, mapM_compilePattern valid.1.2, mapM_compileRename valid.2]
  rfl

namespace Invocation

variable {invocation : Invocation}

/-- All patterns of a command. -/
def patterns (invocation : Invocation) : List String :=
  invocation.only ++ invocation.skip ++ renamePatterns invocation.renames

theorem renamePairs_of_even {values : List String} (even : Even values.length) :
    ∃ pairs, renamePairs values = .ok pairs ∧ pairs.flatMap (fun rule => [rule.1, rule.2]) = values
      ∧ pairs.map Prod.fst = renamePatterns values := by
  induction values using renamePairs.induct with
  | case1 => exact ⟨[], rfl, rfl, rfl⟩
  | case2 pattern => exact absurd even Nat.not_even_one
  | case3 pattern replacement rest ih =>
    have shorter : Even rest.length := by
      rw [List.length_cons, List.length_cons] at even
      grind
    obtain ⟨pairs, paired, flat, firsts⟩ := ih shorter
    refine ⟨(pattern, replacement) :: pairs, ?_, ?_, ?_⟩
    · rw [renamePairs, paired]
      rfl
    · rw [List.flatMap_cons, flat]
      rfl
    · rw [List.map_cons, firsts, renamePatterns]

/-- All that a command with these rules of renaming sets. -/
def layerWith (invocation : Invocation) (rules : List (String × String)) : SettingsLayer :=
  { invocation.layer rules with only := invocation.only, skip := invocation.skip }

theorem withLayer_layerWith (settings : Settings) (rules : List (String × String)) :
    (settings.withLayer { only := invocation.only, skip := invocation.skip }).withLayer (invocation.layer rules)
      = settings.withLayer (invocation.layerWith rules) := by
  simp [Settings.withLayer, Selection.append, SettingsLayer.selection, layerWith, layer]

/-- The patterns on which definitions are kept and the rest are two layers, which make up one. -/
theorem overlay_of_paired (paired : Even invocation.renames.length) :
    ∃ rules, rules.flatMap (fun rule => [rule.1, rule.2]) = invocation.renames
      ∧ ((∀ pattern ∈ invocation.patterns, (Pattern.compile? pattern).isSome = true) → ∀ settings : Settings,
        invocation.overlay settings = .ok (settings.withLayer (invocation.layerWith rules))) := by
  obtain ⟨rules, pairs, flat, firsts⟩ := renamePairs_of_even paired
  refine ⟨rules, flat, fun valid settings => ?_⟩
  rw [patterns, ← firsts, List.forall_mem_append] at valid
  have keeping : ∀ pattern ∈ SettingsLayer.patterns { only := invocation.only, skip := invocation.skip },
      (Pattern.compile? pattern).isSome = true := by
    simpa [SettingsLayer.patterns] using valid.1
  have remaining : ∀ pattern ∈ (invocation.layer rules).patterns, (Pattern.compile? pattern).isSome = true := by
    simpa [SettingsLayer.patterns, layer] using valid.2
  rw [overlay, Settings.addLayer_eq keeping, pairs]
  exact (Settings.addLayer_eq remaining _).trans (congrArg _ (withLayer_layerWith settings rules))

/-- What the configuration file of a command sets.  Nothing is set if the command has none. -/
def fileLayer? (tree : FileTree) (invocation : Invocation) : Option SettingsLayer :=
  match invocation.config with
  | none => some {}
  | some path => (tree.read path).toOption.bind ConfigFile.read?

theorem settings_eq {tree : FileTree} {layer : SettingsLayer} (found : invocation.fileLayer? tree = some layer) :
    invocation.settings Disk.ofTree tree = (Settings.addLayer {} layer >>= invocation.overlay, tree) := by
  rw [fileLayer?] at found
  rw [settings]
  cases named : invocation.config with
  | none =>
    rw [named] at found
    cases found
    rfl
  | some path =>
    simp only [named] at found
    cases held : tree.read path with
    | error fault =>
      rw [held] at found
      cases found
    | ok contents =>
      rw [held] at found
      have read : ConfigFile.read? contents = some layer := found
      have reading : Disk.ofTree.read path tree = (.ok contents, tree) := congrArg (·, tree) held
      simp only [bind, StateT.bind, reading, settingsOver, ConfigFile.layer, read]
      rfl

end Invocation

/-- How settings come about: those of a file, those of a command, and what they make of a run together. -/
structure Settings.Layered (target : Target) (layer : SettingsLayer) (invocation : Invocation)
    (file line whole : Settings) : Prop where
  keeps : ∀ name, whole.selection.keeps name = (file.selection.keeps name && line.selection.keeps name)
  select : ∀ d, whole.selection.keeps d.name = true →
    whole.selection.select d = .kept (line.selection.rename (file.selection.rename d))
  fileRules : ∀ d, file.selection.rename d = layer.renames.foldl Definition.renameBy d
  lineRules : ∃ rules : List (String × String), rules.flatMap (fun rule => [rule.1, rule.2]) = invocation.renames
    ∧ ∀ d, line.selection.rename d = rules.foldl Definition.renameBy d
  dropReason : ∀ name, whole.selection.dropReason? name
    = ((firstPattern? layer.only fun p => !p.isMatch name).map .notMatchingOnly
      <|> (firstPattern? invocation.only fun p => !p.isMatch name).map .notMatchingOnly
      <|> (firstPattern? layer.skip fun p => p.isMatch name).map .matchedSkip
      <|> (firstPattern? invocation.skip fun p => p.isMatch name).map .matchedSkip)
  bail : whole.bail = (layer.bail.getD false || invocation.bail)
  merge : invocation.merge = true → whole.merge = true
  noMerge : invocation.noMerge = true → whole.merge = false
  mergeUnset : invocation.merge = false → invocation.noMerge = false → whole.merge = layer.merge.getD true
  out : whole.out = (invocation.out <|> layer.out).getD "."
  scope : whole.options.scope = ((if target = .cpp then invocation.scope else none) <|> layer.scope).getD "idl"
  suffix : whole.options.suffix = ((if target = .cpp then invocation.suffix else none) <|> layer.suffix).getD "cc"
  bundle : whole.options.bundle
    = ((if target = .javascript then invocation.bundle else none) <|> layer.bundle).getD "bindings.js"

namespace Settings

variable {target : Target} {layer : SettingsLayer} {invocation : Invocation} {rules : List (String × String)}

theorem layered_withLayer (declared : invocation.Declared target)
    (flat : rules.flatMap (fun rule => [rule.1, rule.2]) = invocation.renames) :
    Layered target layer invocation (withLayer {} layer) (withLayer {} (invocation.layerWith rules))
      ((withLayer {} layer).withLayer (invocation.layerWith rules)) where
  keeps := Selection.keeps_append layer.selection (invocation.layerWith rules).selection
  select d kept := by
    rw [Selection.select, Selection.dropReason?_eq_none.2 kept]
    exact congrArg Selected.kept (Selection.rename_append layer.selection (invocation.layerWith rules).selection d)
  fileRules := layer.rename_selection
  lineRules := ⟨rules, flat, (invocation.layerWith rules).rename_selection⟩
  dropReason name := by
    have reasons := Selection.dropReason?_append layer.selection (invocation.layerWith rules).selection name
    simp only [SettingsLayer.only_selection, SettingsLayer.skip_selection] at reasons
    exact reasons
  bail := by cases given : invocation.bail <;> simp [withLayer, Invocation.layerWith, Invocation.layer, given]
  merge given := by simp [withLayer, Invocation.layerWith, Invocation.layer, given, declared.exclusive given]
  noMerge given := by simp [withLayer, Invocation.layerWith, Invocation.layer, given]
  mergeUnset unset unset' := by simp [withLayer, Invocation.layerWith, Invocation.layer, unset, unset']
  out := by simp [withLayer, Invocation.layerWith, Invocation.layer, Option.getD_or]
  scope := by
    split
    case isTrue => simp [withLayer, Invocation.layerWith, Invocation.layer, Option.getD_or]
    case isFalse other => simp [withLayer, Invocation.layerWith, Invocation.layer, declared.scope other]
  suffix := by
    split
    case isTrue => simp [withLayer, Invocation.layerWith, Invocation.layer, Option.getD_or]
    case isFalse other => simp [withLayer, Invocation.layerWith, Invocation.layer, declared.suffix other]
  bundle := by
    split
    case isTrue => simp [withLayer, Invocation.layerWith, Invocation.layer, Option.getD_or]
    case isFalse other => simp [withLayer, Invocation.layerWith, Invocation.layer, declared.bundle other]

end Settings

/-- If the arguments are read as a command, its configuration file is read and all patterns compile, then there are
settings.  The file and the command have settings when taken alone too, and those of the run are both together. -/
theorem settings_layered {arguments : List String} {target : Target} {invocation : Invocation} {tree : FileTree}
    {layer : SettingsLayer} (parsed : CommandLine.parse arguments = .ok (target, invocation))
    (found : invocation.fileLayer? tree = some layer)
    (valid : ∀ pattern ∈ layer.patterns ++ invocation.patterns, (Pattern.compile? pattern).isSome = true) :
    ∃ file line whole, Settings.addLayer {} layer = .ok file ∧ invocation.settingsOver none = .ok line
      ∧ invocation.settings Disk.ofTree tree = (.ok whole, tree)
      ∧ Settings.Layered target layer invocation file line whole := by
  have declared := CommandLine.declared_of_parse parsed
  rw [List.forall_mem_append] at valid
  -- The rules of a command are pairs, so all of it is one layer.
  obtain ⟨rules, flat, overlaid⟩ := Invocation.overlay_of_paired declared.paired
  have overlay := overlaid valid.2
  refine ⟨_, _, _, Settings.addLayer_eq valid.1 _, overlay _, ?_, Settings.layered_withLayer declared flat⟩
  rw [Invocation.settings_eq found, Settings.addLayer_eq valid.1]
  exact congrArg (·, tree) (overlay _)

/-- A configuration file. -/
def FileTree.configured : FileTree :=
  ⟨[(["c"], .file (.text "only: [E]\nrename:\n- \x7bpattern: ^, replacement: A\x7d\nmerge: false\nsuffix: cxx\n"))]⟩

/-- A command that names the file. -/
def Invocation.configured : Invocation where
  inputs := ["d"]
  config := some "c"
  only := ["N$"]
  renames := ["^", "B"]
  suffix := some "cpp"

/-- The file asks for the letter E, and the command for an N at the end.  A name gets an A in front from the file and
then a B from the command.  On the suffix the command has the last word, and on merging the file. -/
theorem settings_layered_configured :
    CommandLine.parse ["cpp", "d", "--config=c", "--only", "N$", "--rename", "^", "B", "--suffix", "cpp"]
        = .ok (.cpp, Invocation.configured)
      ∧ ∃ whole, Invocation.configured.settings Disk.ofTree FileTree.configured = (.ok whole, FileTree.configured)
        ∧ whole.selection.dropReason? "Open" = some (.notMatchingOnly "E")
        ∧ whole.selection.dropReason? "Event" = some (.notMatchingOnly "N$")
        ∧ whole.selection.select { kind := .enum, name := "EN" } = .kept { kind := .enum, name := "BAEN" }
        ∧ whole.options.suffix = "cpp" ∧ whole.options.scope = "idl" ∧ whole.merge = false := by
  have parsed : CommandLine.parse ["cpp", "d", "--config=c", "--only", "N$", "--rename", "^", "B", "--suffix", "cpp"]
      = .ok (.cpp, Invocation.configured) := by rfl
  have found : Invocation.configured.fileLayer? FileTree.configured
      = some { only := ["E"], renames := [("^", "A")], merge := some false, suffix := some "cxx" } := by
    decide +kernel
  obtain ⟨file, line, whole, -, -, had, layered⟩ := settings_layered parsed found (by decide +kernel)
  refine ⟨parsed, whole, had, ?_, ?_, ?_, layered.suffix, layered.scope, layered.mergeUnset rfl rfl⟩
  · rw [layered.dropReason]
    decide +kernel
  · rw [layered.dropReason]
    decide +kernel
  · have kept : whole.selection.dropReason? "EN" = none := by
      rw [layered.dropReason]
      decide +kernel
    obtain ⟨rules, flat, ruled⟩ := layered.lineRules
    obtain rfl : rules = [("^", "B")] := by
      cases rules with
      | nil => cases flat
      | cons rule rest => cases rest <;> simp_all [Invocation.configured, Prod.ext_iff]
    have selected := layered.select { kind := .enum, name := "EN" } (Selection.dropReason?_eq_none.1 kept)
    rw [ruled, layered.fileRules] at selected
    rw [selected]
    exact congrArg Selected.kept (by decide +kernel)

end IdlBindings
