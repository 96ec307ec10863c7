set_option autoImplicit false

/- Why a report fails, each cause with its text. -/
namespace FormReport

/-- What is wrong with a report's definition. -/
inductive PlanError where
  | noFieldsSelected
  | unknownReference (reference : String)
  | invalidExpression (source reason : String)
  | ungroupedReference (calculation field : String)
  | invalidIdentifier (formId fieldId : String)
  deriving DecidableEq

def PlanError.message : PlanError → String
  | noFieldsSelected => "report selects no display, aggregation or calculation fields"
  | unknownReference reference => s!"unknown field reference `{reference}`"
  | invalidExpression source reason => s!"invalid expression `{source}`: {reason}"
  | ungroupedReference calculation field =>
    s!"calculation `{calculation}` references `{field}`, which is neither grouped nor aggregated"
  | invalidIdentifier formId fieldId => s!"field `{fieldId}` does not exist in form `{formId}`"

/-- What a store answers instead of data. -/
inductive StoreError where
  | groupingMismatch (detail : String)
  | numericCoercion (detail : String)
  | unknownField (detail : String)
  | malformedPath (detail : String)
  | invalidExpression (detail : String)
  | backend (detail : String)
  deriving DecidableEq

def StoreError.message : StoreError → String
  | groupingMismatch detail => s!"grouping key mismatch: {detail}"
  | numericCoercion detail => s!"numeric coercion failed: {detail}"
  | unknownField detail => s!"unknown field: {detail}"
  | malformedPath detail => s!"malformed value path: {detail}"
  | invalidExpression detail => s!"expression syntax error: {detail}"
  | backend detail => detail

/-- What goes wrong while a plan is carried out. -/
inductive RunError where
  | malformedPath (recordId : String) (row : Nat) (reason : String)
  | numericOverflow (column : String)
  | store (error : StoreError)
  deriving DecidableEq

def RunError.message : RunError → String
  | malformedPath recordId row reason => s!"record `{recordId}` row {row}: {reason}"
  | numericOverflow column => s!"aggregate column `{column}` overflowed to a non-finite value"
  | store error => error.message

inductive ReportError where
  | reportNotFound (reportId : String)
  | accessDenied (reportId userId : String)
  | plan (error : PlanError)
  | run (error : RunError)
  deriving DecidableEq

def ReportError.message : ReportError → String
  | reportNotFound reportId => s!"report `{reportId}` not found"
  | accessDenied reportId userId => s!"user `{userId}` may not access report `{reportId}`"
  | plan error => error.message
  | run error => error.message

/-- A store's failure as the failure of a report. -/
def ReportError.store (error : StoreError) : ReportError := run (.store error)

end FormReport
