/-
# IdlBindings.Report.Basic: what a run did, in numbers and names.
-/
import IdlBindings.Run.Collection

namespace IdlBindings

/-- What a successful run did. -/
structure RunResult where
  target : Target
  /-- The documents, as given. -/
  sources : List String
  definitions : List Definition
  /-- How many fragments each name had. -/
  fragmentCounts : List (String × Nat)
  dropped : List Dropped
  warnings : List Warning
  /-- The paths of the files written. -/
  files : List String

/-- A definition in a report. -/
structure DefinitionSummary where
  name : String
  kind : DefinitionKind
  fragments : Nat
  members : Nat
  values : Nat
  deriving DecidableEq

/-- The numbers of a report. -/
structure ReportSummary where
  sources : Nat
  definitions : Nat
  /-- Definitions of more than one fragment. -/
  merged : Nat
  dropped : Nat
  warnings : Nat
  files : Nat
  deriving DecidableEq

/-- The report of a run. -/
structure Report where
  target : Target
  sources : List String
  definitions : List DefinitionSummary
  dropped : List Dropped
  warnings : List Warning
  files : List String
  summary : ReportSummary
  deriving DecidableEq

/-- A definition in a report.  A name that was not counted is one fragment. -/
def Definition.summary (counts : List (String × Nat)) (definition : Definition) :
    DefinitionSummary where
  name := definition.name
  kind := definition.kind
  fragments := (counts.lookup definition.name).getD 1
  members := definition.members.length
  values := definition.values.length

/-- The report of a result. -/
def RunResult.report (result : RunResult) : Report :=
  let definitions := result.definitions.map (Definition.summary result.fragmentCounts)
  { target := result.target
    sources := result.sources
    definitions
    dropped := result.dropped
    warnings := result.warnings
    files := result.files
    summary := {
      sources := result.sources.length
      definitions := definitions.length
      merged := (definitions.filter fun definition => definition.fragments > 1).length
      dropped := result.dropped.length
      warnings := result.warnings.length
      files := result.files.length } }

end IdlBindings
