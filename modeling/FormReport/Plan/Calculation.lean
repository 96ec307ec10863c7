import FormReport.Plan.Basic
import FormReport.Traced

set_option autoImplicit false

/- What the names in a calculation read. In the grouped modes a name means an aggregate, else a
grouping column; in raw mode it means a display column, else a field of the catalog. -/
namespace FormReport

/-- A name that names nothing and was taken for zero. -/
structure ZeroedName where
  calculation : String
  name : String
  deriving DecidableEq

/-- What a calculation may refer to. -/
structure CalculationScope where
  mode : Mode
  aggregates : List AggregateName
  grouping : List GroupingKey
  policy : UnresolvedPolicy
  deriving DecidableEq

namespace CalculationScope

def groupingKey? (scope : CalculationScope) (column : String) : Option GroupingKey :=
  scope.grouping.find? (·.column = column)

/-- The meaning of a name over finished rows, if it has one. A field of the catalog counts only when
its display name is a grouping column. -/
def groupedLeaf? (scope : CalculationScope) (catalog : Catalog) (calculation name : String) :
    Except PlanError (Option (Leaf Accessor)) :=
  match AggregateName.column? scope.aggregates name with
  | some column => .ok (some (.aggregate column))
  | none =>
    match scope.groupingKey? name with
    | some key => .ok (some (.grouping key.column))
    | none =>
      match catalog.lookup? name with
      | none => .ok none
      | some (_, field) =>
        match scope.groupingKey? field.name with
        | some key => .ok (some (.grouping key.column))
        | none => .error (.ungroupedReference calculation name)

/-- The meaning of a name over stored rows, if it has one. -/
def rawLeaf? (scope : CalculationScope) (catalog : Catalog) (name : String) :
    Except PlanError (Option (Leaf Accessor)) :=
  match scope.groupingKey? name with
  | some key => .ok (some (.raw key.accessor))
  | none =>
    match catalog.lookup? name with
    | none => .ok none
    | some (_, field) => do
      let accessor ← Accessor.ofName catalog field.name (some field.id)
      .ok (some (.raw accessor))

/-- The meaning of a name, if it has one. -/
def leaf? (scope : CalculationScope) (catalog : Catalog) (calculation name : String) :
    Except PlanError (Option (Leaf Accessor)) :=
  if scope.mode.isGrouped then scope.groupedLeaf? catalog calculation name
  else scope.rawLeaf? catalog name

/-- What takes the place of a name. A name without a meaning is refused or reads as zero. -/
def resolve (scope : CalculationScope) (catalog : Catalog) (calculation name : String) :
    Traced ZeroedName PlanError Formula := do
  match ← Traced.ofExcept (scope.leaf? catalog calculation name) with
  | some leaf => pure (.ref leaf)
  | none =>
    match scope.policy with
    | .reject => Traced.fail (.unknownReference name)
    | .zero => do
      Traced.note ⟨calculation, name⟩
      pure (.number 0)

/-- The formula of a calculation. -/
def formula (scope : CalculationScope) (catalog : Catalog) (calculation source : String) :
    Traced ZeroedName PlanError Formula := do
  let tree ← Traced.ofExcept (parseFormula source)
  tree.substitute (scope.resolve catalog calculation)

/-- Why a calculation cannot have a name, if it cannot. -/
def nameFault? (taken : List String) (name : String) : Option String :=
  if name = "" then some "calculation has no name"
  else if name ∈ taken then some s!"calculation name collides with column `{name}`"
  else none

/-- The columns of calculations, each with a name that is not taken yet. -/
def columns (scope : CalculationScope) (catalog : Catalog) (taken : List String) :
    List Calculation → Traced ZeroedName PlanError (List CalculationColumn)
  | [] => pure []
  | calculation :: rest => do
    let column := Text.trim calculation.name
    match nameFault? taken column with
    | some reason => Traced.fail (.invalidExpression calculation.expression reason)
    | none => do
      let formula ← scope.formula catalog column calculation.expression
      let others ← scope.columns catalog (taken ++ [column]) rest
      pure (⟨column, calculation.expression, formula⟩ :: others)

end CalculationScope

end FormReport
