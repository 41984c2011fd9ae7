/-
# IdlBindings.Report.Format: reports for readers and for programs.

A report is a text for a console, or a JSON or YAML document.  The two documents have the same fields
in the same order.
-/
import IdlBindings.Report.Basic
import IdlBindings.Report.Datum

namespace IdlBindings

/-- The formats of a report. -/
inductive ReportFormat where
  | console
  | json
  | yaml
  deriving DecidableEq

/-! ## Words of the documents -/

/-- A target in a document. -/
def Target.word : Target → String
  | .cpp => "cpp"
  | .flow => "flow"
  | .javascript => "javascript"
  | .idl => "idl"

/-- A kind of definition in a document. -/
def DefinitionKind.word : DefinitionKind → String
  | .callbackInterface => "callback-interface"
  | kind => kind.keyword

/-- A kind of warning in a document. -/
def WarningKind.word : WarningKind → String
  | .unparsableDocument => "UnparsableDocument"
  | .unparsableMarkup => "UnparsableMarkup"
  | .unreachableDocument => "UnreachableDocument"

/-! ## Documents -/

/-- A reason in a document. -/
def DropReason.datum : DropReason → Datum
  | .notMatchingOnly pattern => .variant "NotMatchingOnly" pattern
  | .matchedSkip pattern => .variant "MatchedSkip" pattern

/-- A dropped definition in a document. -/
def Dropped.datum (dropped : Dropped) : Datum :=
  .record [("name", .text dropped.name), ("reason", dropped.reason.datum)]

/-- A warning in a document.  The text that could not be read stands there only if there is one. -/
def Warning.datum (warning : Warning) : Datum :=
  .record ([("message", .text warning.message), ("document", .ofOption warning.document)]
    ++ (warning.unparsed.toList.map fun text => ("unparsed", .text text))
    ++ [("warning_type", .text warning.kind.word)])

/-- A definition in a document. -/
def DefinitionSummary.datum (summary : DefinitionSummary) : Datum :=
  .record [("name", .text summary.name), ("kind", .text summary.kind.word),
    ("fragments", .number summary.fragments), ("members", .number summary.members),
    ("values", .number summary.values)]

/-- The numbers in a document. -/
def ReportSummary.datum (summary : ReportSummary) : Datum :=
  .record [("total_sources", .number summary.sources),
    ("total_definitions", .number summary.definitions),
    ("merged_definitions", .number summary.merged),
    ("skipped_definitions", .number summary.dropped),
    ("total_warnings", .number summary.warnings), ("files_written", .number summary.files)]

namespace Report

/-- The fields of a report's document. -/
def fields (report : Report) : List (String × Datum) :=
  [("backend", .text report.target.word), ("sources", .texts report.sources),
    ("definitions", .list (report.definitions.map DefinitionSummary.datum)),
    ("skipped", .list (report.dropped.map Dropped.datum)),
    ("warnings", .list (report.warnings.map Warning.datum)), ("files", .texts report.files),
    ("summary", report.summary.datum)]

/-! ## Console -/

/-- The lines on dropped definitions. -/
def droppedLines (report : Report) : List String :=
  match report.dropped with
  | [] => []
  | dropped =>
    ("  Skipped: " ++ toString report.summary.dropped)
      :: dropped.map fun definition => "    - " ++ definition.name

/-- The lines of a report on a console. -/
def lines (report : Report) : List String :=
  ["", "=== Generation Complete (" ++ report.target.name ++ ") ===",
    "  Sources: " ++ toString report.summary.sources,
    "  Definitions: " ++ toString report.summary.definitions ++ " ("
      ++ toString report.summary.merged ++ " merged from partials)"]
    ++ report.droppedLines
    ++ (report.warnings.map fun warning => "  ⚠ WARNING: " ++ warning.message)
    ++ (report.files.map fun path => "  ✓ Output file: " ++ path)

/-- A report in a format. -/
def format (report : Report) : ReportFormat → String
  | .console => String.join (report.lines.map (· ++ "\n"))
  | .json => Json.write (.record report.fields)
  | .yaml => Yaml.write report.fields

end Report

end IdlBindings
