import FormReport.Aggregate.Plan
import FormReport.Catalog.Accessor
import FormReport.Cell.Basic
import FormReport.Report

set_option autoImplicit false

/- What a report's definition amounts to once every name in it is resolved. -/
namespace FormReport

inductive Mode where
  /-- One result row per stored row. -/
  | raw
  /-- One result row per group. -/
  | aggregate
  /-- Groups first, then calculations over the finished rows: a calculation may read an aggregate,
  which only exists once its group is complete. -/
  | aggregateThenCalculate
  deriving DecidableEq

namespace Mode

def select (hasAggregations hasCalculations : Bool) : Mode :=
  match hasAggregations, hasCalculations with
  | false, _ => raw
  | true, false => aggregate
  | true, true => aggregateThenCalculate

def isGrouped : Mode → Bool
  | raw => false
  | _ => true

def text : Mode → String
  | raw => "raw"
  | aggregate => "aggregate"
  | aggregateThenCalculate => "aggregate_then_calculate"

end Mode

/-- What a name in a calculation reads: a column of the finished row, or the stored row itself. -/
inductive Leaf (α : Type) where
  | aggregate (column : String)
  | grouping (column : String)
  | raw (source : α)
  deriving DecidableEq

abbrev Formula := Expression (Leaf Accessor)

/-- A display column, by which rows are grouped in the grouped modes. -/
structure GroupingKey where
  column : String
  accessor : Accessor
  deriving DecidableEq

structure CalculationColumn where
  column : String
  source : String
  formula : Formula
  deriving DecidableEq

structure RowFilter where
  accessor : Accessor
  /-- The forms that define the field; rows of other forms pass. -/
  forms : List String
  operator : FilterOperator
  operand : Cell
  deriving DecidableEq

structure SortKey where
  column : String
  direction : SortDirection
  deriving DecidableEq

structure Plan where
  mode : Mode
  /-- The live forms of the report, in the order in which it names them. -/
  formIds : List String
  /-- The only site whose records count, if there is one. -/
  site : Option String
  filters : List RowFilter
  grouping : List GroupingKey
  aggregates : List AggregateColumn
  calculations : List CalculationColumn
  sort : List SortKey
  /-- Grouping columns, then aggregates, then calculations. -/
  columns : List String
  deriving DecidableEq

def Plan.groupingColumns (plan : Plan) : List String := plan.grouping.map (·.column)

/-- The size of a plan and what was left out of it. -/
structure PlanSummary where
  mode : Mode
  forms : Nat
  grouping : Nat
  aggregates : Nat
  calculations : Nat
  filters : Nat
  aliases : Nat
  ignoredSorts : Nat
  deriving DecidableEq

/-- The summary as one line. -/
def PlanSummary.line (summary : PlanSummary) : String :=
  s!"mode={summary.mode.text} forms={summary.forms} grouping={summary.grouping} " ++
    s!"aggregates={summary.aggregates} calculations={summary.calculations} " ++
    s!"filters={summary.filters} aliases={summary.aliases} ignored_sorts={summary.ignoredSorts}"

end FormReport
