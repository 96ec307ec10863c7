import FormReport.Diagnostic
import FormReport.Plan.Calculation
import FormReport.Text.Quoted

set_option autoImplicit false

/- What is noted while a report is made, and the log lines for it. -/
namespace FormReport

/-- The points at which rows are counted. -/
inductive Stage where
  /-- The rows of all records in scope. -/
  | expanded
  /-- The rows that pass the filters. -/
  | filtered
  /-- The finished rows. -/
  | materialized
  /-- The finished rows that are no totals. -/
  | final
  deriving DecidableEq

def Stage.text : Stage → String
  | expanded => "expanded"
  | filtered => "filtered"
  | materialized => "materialized"
  | final => "final"

inductive Observation where
  | planned (reportId : String) (summary : PlanSummary)
  | counted (reportId : String) (mode : Mode) (stage : Stage) (rows : Nat)
  /-- Forms that the report names and that are not live. -/
  | formsDropped (reportId : String) (formIds : List String)
  /-- Row keys that no field explains, in order. -/
  | keysUnresolved (reportId recordId : String) (keys : List String)
  | totalsRemoved (reportId : String) (removed : Nat)
  | failed (reportId : String) (error : ReportError) (diagnostic : Diagnostic)
  /-- A name in a calculation that was taken for zero. -/
  | zeroed (name : ZeroedName)

inductive LogLevel where
  | error
  | warn
  | info
  | debug
  deriving DecidableEq

def LogLevel.text : LogLevel → String
  | error => "ERROR"
  | warn => "WARN"
  | info => "INFO"
  | debug => "DEBUG"

/-- A log line: its level, and named fields of which `message` is the text. -/
structure LogLine where
  level : LogLevel
  fields : Keyed Json

namespace Observation

/-- Whether the planner itself writes the log line, whoever observes the report. -/
def isOwnLog : Observation → Bool
  | zeroed _ => true
  | _ => false

def logLines : Observation → List LogLine
  | planned reportId summary =>
    let done : LogLine := ⟨.info, [("message", .text "report plan compiled"),
      ("report_id", .text reportId), ("plan", .text summary.line)]⟩
    let ignored : LogLine := ⟨.warn, [("message", .text "sort orders name no output column"),
      ("report_id", .text reportId), ("ignored", .integer summary.ignoredSorts)]⟩
    if summary.ignoredSorts = 0 then [done] else [done, ignored]
  | counted reportId mode stage rows =>
    [⟨.debug, [("report_id", .text reportId), ("mode", .text mode.text),
      ("stage", .text stage.text), ("rows", .integer rows)]⟩]
  | formsDropped reportId formIds =>
    [⟨.warn, [("message", .text "inactive forms excluded from report"),
      ("report_id", .text reportId), ("forms", .text (Text.quotedList "[" "]" formIds))]⟩]
  | keysUnresolved reportId recordId keys =>
    [⟨.debug, [("message", .text "row keys match no known field"),
      ("report_id", .text reportId), ("record_id", .text recordId),
      ("keys", .text (Text.quotedList "\x7b" "\x7d" keys))]⟩]
  | totalsRemoved reportId removed =>
    [⟨.debug, [("message", .text "total placeholder rows removed"),
      ("report_id", .text reportId), ("removed", .integer removed)]⟩]
  | failed reportId error diagnostic =>
    let fields : Keyed Json := [("report_id", .text reportId), ("kind", .text diagnostic.kind.name),
      ("error", .text error.message)]
    if diagnostic.kind.isSystemFault then
      [⟨.error, ("message", .text "report execution failed") :: fields⟩]
    else [⟨.warn, ("message", .text "report rejected") :: fields⟩]
  | zeroed name =>
    [⟨.debug, [("message", .text "unresolved calculation token reads as 0"),
      ("calculation", .text name.calculation), ("token", .text name.name)]⟩]

end Observation

end FormReport
