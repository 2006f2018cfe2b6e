import FactViews.Query.Basic
import FactViews.Text.Basic
import FactViews.Trace

/-! # Operators of measures

An aggregation plan says which operator every measure gets: its own override, or else the
fallback, which is `SUM` unless set. -/

namespace FactViews

/-- A fallback operator and operators for single measures. -/
structure AggregationPlan where
  fallback : Aggregate := .sum
  overrides : Catalog Aggregate := .empty
deriving DecidableEq, Repr, Inhabited

namespace AggregationPlan

/-- Sets the fallback. -/
def withFallback (p : AggregationPlan) (op : Aggregate) : AggregationPlan :=
  { p with fallback := op }

/-- Sets the operator of one measure; a later setting replaces an earlier one. -/
def withOverride (p : AggregationPlan) (measure : String) (op : Aggregate) : AggregationPlan :=
  { p with overrides := p.overrides.insert measure op }

/-- Sets the operators of several measures, one after another. -/
def withOverrides (p : AggregationPlan) (ops : List (String × Aggregate)) : AggregationPlan :=
  { p with overrides := p.overrides.insertAll ops }

/-- The operator of a measure. -/
def operatorFor (p : AggregationPlan) (measure : String) : Aggregate :=
  (p.overrides.find? measure).getD p.fallback

/-- The bound form of a measure. -/
def bindMeasure (p : AggregationPlan) (measure : String) : BoundMeasure :=
  ⟨measure, p.operatorFor measure⟩

/-- Binds an operator to every measure of a query; earlier bindings are dropped. -/
def bind (p : AggregationPlan) (q : FactQuery) : FactQuery :=
  { q with aggregations := .ofList (q.measures.map fun m => (m, p.bindMeasure m)) }

end AggregationPlan

/-- What is reported when operators have been bound. -/
def FactQuery.aggregatedEvent (q : FactQuery) : Trace.Event where
  level := .debug
  target := "semview::passes::bind_aggregation"
  message := "bound measure aggregations"
  fields := [("fact", q.fromTable), ("measures", Text.decimal q.aggregations.size)]

end FactViews
