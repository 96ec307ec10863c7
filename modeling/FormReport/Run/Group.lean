import FormReport.Aggregate.Accumulator
import FormReport.Run.Row

set_option autoImplicit false

/- From stored rows to finished rows. -/
namespace FormReport

/-- One group: the texts by which its rows fall together, the cells of its first row, and the state
of every aggregate. -/
structure Group where
  key : List (Option String)
  cells : List Cell
  states : List Accumulator

namespace Group

/-- A group without rows. -/
def start (plan : Plan) (cells : List Cell) : Group where
  key := cells.map Cell.groupKey
  cells := cells
  states := plan.aggregates.map fun planned => .new planned.function

/-- Takes in what a row gives to each aggregate; `none` is a row of another form. -/
def push (group : Group) (inputs : List (Option Cell)) : Group :=
  { group with
    states := group.states.zipWith (fun state input => (input.map state.push).getD state) inputs }

/-- Takes in a row: into the group with its key, or into a new one behind the others. -/
def add (plan : Plan) (cells : List Cell) (inputs : List (Option Cell)) : List Group → List Group
  | [] => [(start plan cells).push inputs]
  | group :: rest =>
    if group.key = cells.map Cell.groupKey then group.push inputs :: rest
    else group :: add plan cells inputs rest

end Group

namespace Plan

/-- What a row gives to an aggregate: its cell if the row is of the aggregate's form. -/
def input (row : StoredRow) (planned : AggregateColumn) : Except RunError (Option Cell) :=
  if planned.formId = row.formId then do
    let cell ← row.read planned.accessor
    .ok (some cell)
  else .ok none

/-- Takes a row into its group. -/
def group (plan : Plan) (groups : List Group) (row : StoredRow) : Except RunError (List Group) := do
  let cells ← plan.grouping.mapM fun key => row.read key.accessor
  let inputs ← plan.aggregates.mapM (input row)
  .ok (Group.add plan cells inputs groups)

/-- The value of an aggregate, which must be finite. -/
def aggregateCell (planned : AggregateColumn) (state : Accumulator) :
    Except RunError (String × Cell) :=
  let value := state.finish planned.roundsToInteger
  if value.isFinite then .ok (planned.column, .number value)
  else .error (.numericOverflow planned.column)

/-- The finished row of a group. -/
def groupRow (plan : Plan) (group : Group) : Except RunError ResultRow := do
  let values ← (plan.aggregates.zip group.states).mapM fun (planned, state) =>
    aggregateCell planned state
  .ok (Keyed.ofList (plan.groupingColumns.zip group.cells ++ values))

/-- The groups that are there before the first row: without grouping columns there is always one. -/
def initialGroups (plan : Plan) : List Group :=
  if plan.grouping.isEmpty then [Group.start plan []] else []

/-- One finished row per group, in the order in which the groups first appear. -/
def aggregate (plan : Plan) (rows : List StoredRow) : Except RunError (List ResultRow) := do
  let groups ← rows.foldlM plan.group plan.initialGroups
  groups.mapM plan.groupRow

/-- The values of all calculations, under their columns. -/
def calculated (plan : Plan) (leaf : Leaf Accessor → Except RunError (Option Float)) :
    Except RunError (List (String × Cell)) :=
  plan.calculations.mapM fun calculation => do
    let value ← calculation.formula.eval leaf
    .ok (calculation.column, Cell.ofNumber? value)

/-- Adds the calculations to a finished row. They read the row as it was before any of them. -/
def calculate (plan : Plan) (row : ResultRow) : Except RunError ResultRow := do
  let values ← plan.calculated (ResultRow.leaf row)
  .ok (values.foldl (fun row value => row.set value.1 value.2) row)

/-- The finished row of a stored row. -/
def project (plan : Plan) (row : StoredRow) : Except RunError ResultRow := do
  let cells ← plan.grouping.mapM fun key => do
    let cell ← row.read key.accessor
    .ok (key.column, cell)
  let values ← plan.calculated row.leaf
  .ok (Keyed.ofList (cells ++ values))

/-- The finished rows of the stored rows that are left after filtering. -/
def materialize (plan : Plan) (rows : List StoredRow) : Except RunError (List ResultRow) :=
  match plan.mode with
  | .raw => rows.mapM plan.project
  | .aggregate => plan.aggregate rows
  | .aggregateThenCalculate => do
    let groups ← plan.aggregate rows
    groups.mapM plan.calculate

end Plan

end FormReport
