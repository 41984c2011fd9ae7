/-
# IdlBindings.Selection: which definitions are kept, and under which names.

A definition is kept if its name matches all patterns of the first list and none of the second.  What
is kept is renamed: every rule is applied to all names of the definition, one rule after the other.
-/
import IdlBindings.Pattern.Basic
import IdlBindings.Schema.Names

namespace IdlBindings

/-- A pattern and the text that replaces its matches.  It need not match a whole name. -/
structure RenameRule where
  pattern : Pattern
  replacement : String

/-- A name with all matches replaced. -/
def RenameRule.apply (rule : RenameRule) (name : String) : String :=
  rule.pattern.replaceAll rule.replacement name

/-- A definition with a rule applied to all its names. -/
def Definition.rename (definition : Definition) (rule : RenameRule) : Definition :=
  definition.mapNames rule.apply

/-- Why a definition is dropped, with the text of the pattern. -/
inductive DropReason where
  | notMatchingOnly (pattern : String)
  | matchedSkip (pattern : String)
  deriving DecidableEq

/-- The rules of selection and renaming. -/
structure Selection where
  only : List Pattern := []
  skip : List Pattern := []
  renames : List RenameRule := []

/-- What becomes of a definition. -/
inductive Selected where
  | kept (definition : Definition)
  | dropped (name : String) (reason : DropReason)

namespace Selection

/-- Why a name is dropped, if it is.  The first list is asked first. -/
def dropReason? (selection : Selection) (name : String) : Option DropReason :=
  match selection.only.find? fun pattern => !pattern.isMatch name with
  | some pattern => some (.notMatchingOnly pattern.source)
  | none =>
    (selection.skip.find? fun pattern => pattern.isMatch name).map fun pattern =>
      .matchedSkip pattern.source

/-- A definition with all rules applied in order. -/
def rename (selection : Selection) (definition : Definition) : Definition :=
  selection.renames.foldl Definition.rename definition

/-- Drops a definition or renames it. -/
def select (selection : Selection) (definition : Definition) : Selected :=
  match selection.dropReason? definition.name with
  | some reason => .dropped definition.name reason
  | none => .kept (selection.rename definition)

end Selection

end IdlBindings
