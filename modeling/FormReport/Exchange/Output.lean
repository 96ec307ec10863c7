import FormReport.Engine
import FormReport.Exchange.Report

set_option autoImplicit false

/- Finished reports and diagnostics as documents. -/
namespace FormReport

def ResultRow.toJson (row : ResultRow) : Json :=
  .object (row.map fun entry => (entry.1, entry.2.toJson))

def ReportOutput.toJson (output : ReportOutput) : Json :=
  .object [("report", output.report.toJson), ("columns", Json.texts output.columns),
    ("data", .array (output.data.map ResultRow.toJson)), ("total", .integer output.total)]

def Diagnostic.toJson (diagnostic : Diagnostic) : Json :=
  .object ([("error", .text diagnostic.kind.name), ("message", .text diagnostic.message),
    ("suggestion", .text diagnostic.suggestion)] ++
    (diagnostic.detail.map fun text => ("originalError", Json.text text)).toList)

end FormReport
