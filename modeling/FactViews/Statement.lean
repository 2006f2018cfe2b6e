import FactViews.Dialect
import FactViews.Query.Basic

/-! # Statement text

`Dialect.render` writes a fact query as a `SELECT` statement: grain and dimension columns, each
once, then the aggregated measures; the table; the joins; the grouping. Lines for joins and
grouping are left out when there are none. A query whose parts contradict each other is refused
first, whatever the dialect. -/

namespace FactViews
open Text

/-- The contradictions for which a fact query is refused. -/
inductive Breach where
  /-- An operator is bound under a name that is no measure. -/
  | strayAggregation (key : String)
  /-- An operator is bound to another measure than the one it stands under. -/
  | misplacedAggregation (key measure : String)
  /-- The grouping is not the grain. -/
  | groupingMismatch
  /-- There is nothing to select. -/
  | emptySelection
deriving DecidableEq, Repr

/-- The text shown for a contradiction. -/
def Breach.reason : Breach → String
  | .strayAggregation key => "aggregation for '" ++ key ++ "' has no matching measure"
  | .misplacedAggregation key measure =>
    "aggregation keyed '" ++ key ++ "' targets measure '" ++ measure ++ "'"
  | .groupingMismatch => "GROUP BY does not match the grain columns"
  | .emptySelection => "SELECT list is empty"

/-- The failures of rendering. -/
inductive RenderError where
  /-- The parts of a query contradict each other. -/
  | breach (fact : String) (cause : Breach)
  /-- The query was never promoted. -/
  | unpromoted (table : String)
deriving DecidableEq, Repr

/-- The text shown for a failure of rendering. -/
def RenderError.message : RenderError → String
  | .breach fact cause => "rendering contract violation in '" ++ fact ++ "': " ++ cause.reason
  | .unpromoted table => "query for '" ++ table ++ "' was never normalized into a fact query"

namespace FactQuery

/-- The contradiction in one bound operator, if there is one. -/
def aggregationBreach? (q : FactQuery) (entry : String × BoundMeasure) : Option Breach :=
  if !q.measures.contains entry.1 then some (.strayAggregation entry.1)
  else if entry.2.measure ≠ entry.1 then some (.misplacedAggregation entry.1 entry.2.measure)
  else none

/-- The first contradiction in a query: bound operators in order, then grouping, then the
selection. -/
def breach? (q : FactQuery) : Option Breach :=
  match q.aggregations.entries.findSome? q.aggregationBreach? with
  | some b => some b
  | none =>
    if q.groupBy ≠ q.grainColumns then some .groupingMismatch
    else if q.grainColumns.isEmpty && q.dimensionColumns.isEmpty && q.aggregations.isEmpty then
      some .emptySelection
    else none

/-- Grain and dimension columns, each once. -/
def plainColumns (q : FactQuery) : List String :=
  firstOccurrences (q.grainColumns ++ q.dimensionColumns)

/-- The measures that have an operator, with it, in measure order. -/
def aggregatedColumns (q : FactQuery) : List (String × Aggregate) :=
  q.measures.filterMap fun m => (q.aggregations.find? m).map fun b => (m, b.operator)

end FactQuery

namespace Dialect

/-- An aggregated column, named after its measure. -/
def renderAggregated (d : Dialect) (column : String × Aggregate) : String :=
  column.2.keyword ++ "(" ++ d.quote column.1 ++ ") AS " ++ d.quote column.1

/-- The selected columns. -/
def renderSelect (d : Dialect) (q : FactQuery) : String :=
  "SELECT\n  " ++ joinWith ",\n  "
    (q.plainColumns.map d.quoteQualified ++ q.aggregatedColumns.map d.renderAggregated)

/-- The table. -/
def renderFrom (d : Dialect) (q : FactQuery) : String :=
  "FROM " ++ d.quoteQualified q.fromTable

/-- One join. -/
def renderJoin (d : Dialect) (j : Join) : String :=
  j.kind.keyword ++ " JOIN " ++ d.quoteQualified j.table ++ " ON " ++ d.quoteQualified j.left ++
    " = " ++ d.quoteQualified j.right

/-- The grouping, if there is one. -/
def renderGroupBy (d : Dialect) (columns : List String) : List String :=
  if columns.isEmpty then []
  else ["GROUP BY " ++ joinWith ", " (columns.map d.quoteQualified)]

/-- The lines of a statement; the selection is one of them although it spans several. -/
def clauses (d : Dialect) (q : FactQuery) : List String :=
  d.renderSelect q :: d.renderFrom q :: (q.joins.map d.renderJoin ++ d.renderGroupBy q.groupBy)

/-- The statement of a fact query. -/
def render (d : Dialect) (q : FactQuery) : Except RenderError String :=
  match q.breach? with
  | some b => .error (.breach q.fromTable b)
  | none => .ok (joinWith "\n" (d.clauses q))

/-- The statement of a query, which must have been promoted. -/
def renderQuery (d : Dialect) : Query → Except RenderError String
  | .base q => .error (.unpromoted q.fromTable)
  | .fact q => d.render q

end Dialect
end FactViews
