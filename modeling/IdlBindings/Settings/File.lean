/-
# IdlBindings.Settings.File: settings from a configuration file.

A configuration file is a YAML mapping from the names of settings to their values.  A name that is not
known, a name that occurs twice and a value of the wrong shape are refused.  Lists that are left empty
are empty, and other settings that are left empty or null are not set.
-/
import IdlBindings.Settings.Basic
import IdlBindings.Text.Basic
import IdlBindings.Yaml.Node
import IdlBindings.Yaml.Number

namespace IdlBindings

namespace ConfigFile

open Yaml

/-! ## Values -/

/-- What nodes mean: the anchors of the file. -/
abbrev Anchors := List (Nat × Node)

/-- The node that an alias stands for.  Of two anchors with one number the later one counts. -/
def resolve (anchors : Anchors) : Node → Node
  | .aliasOf number => (anchors.reverse.lookup number).getD Node.absent
  | node => node

/-- Any text. -/
def text? (anchors : Anchors) (node : Node) : Option String :=
  match resolve anchors node with
  | .scalar _ _ _ text => some text
  | _ => none

/-- Whether nothing is written. -/
def isAbsent : Node → Bool
  | .scalar _ _ .plain text => text.isEmpty
  | _ => false

/-- The items of a list. -/
def items? (anchors : Anchors) (node : Node) : Option (List Node) :=
  match resolve anchors node with
  | .sequence _ items => some items
  | node => if isAbsent node then some [] else none

/-- The pairs of a mapping, with the texts of their keys. -/
def pairs? (anchors : Anchors) (node : Node) : Option (List (String × Node)) :=
  match resolve anchors node with
  | .mapping _ pairs =>
    pairs.mapM fun pair => do
      let key ← text? anchors pair.1
      some (key, pair.2)
  | node => if isAbsent node then some [] else none

/-- A truth value. -/
def bool? (anchors : Anchors) (node : Node) : Option Bool :=
  match resolve anchors node with
  | .scalar _ _ .plain text => booleanWords.lookup text
  | .scalar _ (some "tag:yaml.org,2002:bool") .literal text => booleanWords.lookup text
  | _ => none

/-- A value that may be left out: nothing is written, or a word for null.  A plain text with a tag is
there, whatever it says, unless the tag is that of null; then it has to be a word for it. -/
def optional? {α : Type} (anchors : Anchors) (read : Node → Option α) (node : Node) :
    Option (Option α) :=
  match resolve anchors node with
  | .scalar _ (some "tag:yaml.org,2002:null") .plain text =>
    if nullWords.contains text then some none else none
  | .scalar anchor none .plain text =>
    if text.isEmpty || nullWords.contains text then some none
    else some <$> read (.scalar anchor none .plain text)
  | node => some <$> read node

/-! ## Fields -/

/-- The value of a field, if there is one.  Fails if there are two. -/
def field? (pairs : List (String × Node)) (name : String) : Option (Option Node) :=
  match pairs.filter fun pair => pair.1 == name with
  | [] => some none
  | [pair] => some (some pair.2)
  | _ => none

/-- The texts of a field that is a list. -/
def texts? (anchors : Anchors) (pairs : List (String × Node)) (name : String) :
    Option (List String) := do
  match ← field? pairs name with
  | some node => (← items? anchors node).mapM (text? anchors)
  | none => some []

/-- The value of a field that may be left out. -/
def setting? {α : Type} (anchors : Anchors) (pairs : List (String × Node)) (name : String)
    (read : Node → Option α) : Option (Option α) := do
  match ← field? pairs name with
  | some node => optional? anchors read node
  | none => some none

/-- A rule of renaming.  Its other fields do not count. -/
def rename? (anchors : Anchors) (node : Node) : Option (String × String) := do
  let pairs ← pairs? anchors node
  let pattern ← text? anchors (← (← field? pairs "pattern"))
  let replacement ← text? anchors (← (← field? pairs "replacement"))
  some (pattern, replacement)

/-- The rules of renaming. -/
def renames? (anchors : Anchors) (pairs : List (String × Node)) :
    Option (List (String × String)) := do
  match ← field? pairs "rename" with
  | some node => (← items? anchors node).mapM (rename? anchors)
  | none => some []

/-- The names of all settings. -/
def names : List String :=
  ["rename", "only", "skip", "bail", "merge", "out", "namespace", "suffix", "bundle"]

/-- The settings of a mapping. -/
def layer? (root : Node) : Option SettingsLayer := do
  let anchors := root.anchors
  let pairs ← pairs? anchors root
  if pairs.any fun pair => !names.contains pair.1 then none
  else
    let renames ← renames? anchors pairs
    let only ← texts? anchors pairs "only"
    let skip ← texts? anchors pairs "skip"
    let bail ← setting? anchors pairs "bail" (bool? anchors)
    let merge ← setting? anchors pairs "merge" (bool? anchors)
    let out ← setting? anchors pairs "out" (text? anchors)
    let scope ← setting? anchors pairs "namespace" (text? anchors)
    let suffix ← setting? anchors pairs "suffix" (text? anchors)
    let bundle ← setting? anchors pairs "bundle" (text? anchors)
    some { only, skip, renames, bail, merge, out, scope, suffix, bundle }

/-- The settings of a file.  A file of whitespace sets nothing. -/
def read? (contents : String) : Option SettingsLayer :=
  if (Text.trim contents.toList).isEmpty then some {}
  else do layer? (← Node.parse? contents)

end ConfigFile

end IdlBindings
