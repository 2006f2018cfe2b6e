import Mathlib.Data.List.Find
import FactViews.Query.Build
import FactViews.Query.Pipeline
import FactViews.Proofs.CatalogLemmas
import FactViews.Proofs.JoinBinding

/-! # The query behind the statement of a fact

What the standard pipeline makes of a fact depends on the fact's declaration and on the
dimensions of its key columns alone. The columns outside the grain are sorted by their endings
(`Fact.keyColumns`, `Fact.measureColumns`). When every key column has exactly one dimension the
result is `Fact.boundQuery` (`run_standard_of_bound`); otherwise the first key column that does
not is refused (`run_standard_of_fault`). No key column is in the grain, so none is skipped as a
degenerate key. -/

namespace FactViews
open Text

namespace Fact

/-- The foreign keys and measures outside the grain, each once, in order. -/
def openColumns (f : Fact) : List String :=
  (firstOccurrences (f.foreignKeys ++ f.measures)).filter (!f.grain.contains ·)

/-- The open columns that are joined with dimensions. -/
def keyColumns (f : Fact) : List String := f.openColumns.filter (endsIn "_id")

/-- The open columns that are aggregated. -/
def measureColumns (f : Fact) : List String :=
  f.openColumns.filter fun c => !endsIn "_id" c && !endsIn "_date" c

/-- The query that selects the columns of a fact as they are. -/
def baseQuery (f : Fact) : BaseQuery where
  select := f.columns.map SelectItem.column
  fromTable := f.name
  groupBy := f.grain

/-- The query of a fact whose key columns have the given dimensions. -/
def boundQuery (f : Fact) (plan : AggregationPlan) (dim : String → Dimension) : FactQuery where
  toBaseQuery := { f.baseQuery with joins := f.keyColumns.map fun k => .onKey f.name k (dim k) }
  grainColumns := f.grain
  foreignKeys := f.keyColumns
  measures := f.measureColumns
  dimensionColumns := f.keyColumns.map fun k => (dim k).name ++ "." ++ k
  aggregations := .ofList (f.measureColumns.map fun x => (x, plan.bindMeasure x))

theorem mem_openColumns {f : Fact} :
    c ∈ f.openColumns ↔ (c ∈ f.foreignKeys ∨ c ∈ f.measures) ∧ c ∉ f.grain := by
  simp [openColumns]

theorem mem_keyColumns {f : Fact} :
    c ∈ f.keyColumns ↔
      (c ∈ f.foreignKeys ∨ c ∈ f.measures) ∧ c ∉ f.grain ∧ endsIn "_id" c = true := by
  simp [keyColumns, mem_openColumns, and_assoc]

theorem toQuery_of_grain {f : Fact} (h : f.grain ≠ []) : f.toQuery = .ok f.baseQuery := by
  simp [toQuery, baseQuery, h]

/-- The grain comes first among the columns, so leaving it out leaves the other columns in their
own order. -/
theorem openLabels_baseQuery (f : Fact) : f.baseQuery.openLabels = f.openColumns := by
  have hlabels : f.baseQuery.select.map SelectItem.label = f.columns := by
    simp [baseQuery, SelectItem.column, Function.comp_def]
  have hgrain : (firstOccurrences f.grain).filter (!f.grain.contains ·) = [] := by
    simp [List.filter_eq_nil_iff]
  rw [BaseQuery.openLabels, hlabels, columns, List.append_assoc, firstOccurrences_append]
  simp only [baseQuery, List.filter_append, hgrain, List.nil_append, List.filter_filter,
    Bool.and_self, openColumns]

theorem promote_baseQuery_foreignKeys (f : Fact) :
    f.baseQuery.promote.foreignKeys = f.keyColumns := by
  simp only [BaseQuery.promote, BaseQuery.foreignKeyLabels, openLabels_baseQuery]
  rfl

theorem promote_baseQuery_measures (f : Fact) :
    f.baseQuery.promote.measures = f.measureColumns := by
  simp only [BaseQuery.promote, BaseQuery.measureLabels, openLabels_baseQuery]
  rfl

end Fact

/-- `q` is the query from which the statement of `f` is written. -/
def Model.BindsTo (m : Model) (plan : AggregationPlan) (f : Fact) (q : FactQuery) : Prop :=
  ∃ base, f.toQuery = .ok base ∧ (Pipeline.standard m plan).run (.base base) = .ok (.fact q)

section Binding
variable {m : Model} {dim : String → Dimension} {plan : AggregationPlan}

namespace FactQuery
variable {q : FactQuery}

/-- Every foreign key contributes one join and one qualified column. -/
theorem bindJoins_of_bound (h : ∀ k ∈ q.foreignKeys, m.dimensionsKeyedBy k = [dim k]) :
    q.bindJoins m = .ok { q with
      joins := q.foreignKeys.map fun k => .onKey q.fromTable k (dim k)
      dimensionColumns := q.foreignKeys.map fun k => (dim k).name ++ "." ++ k } := by
  have haccepted : ∀ k ∈ q.foreignKeys, ¬q.Refuses m k := fun k hk => by simp [Refuses, h k hk]
  have hjoins : q.foreignKeys.flatMap (fun k =>
        (m.dimensionsKeyedBy k).map (Join.onKey q.fromTable k)) =
      q.foreignKeys.map fun k => .onKey q.fromTable k (dim k) := by
    rw [List.map_eq_flatMap]
    exact List.flatMap_congr fun k hk => by rw [h k hk, List.map_singleton]
  have hcolumns : q.foreignKeys.flatMap (fun k =>
        (m.dimensionsKeyedBy k).map fun d => d.name ++ "." ++ k) =
      q.foreignKeys.map fun k => (dim k).name ++ "." ++ k := by
    rw [List.map_eq_flatMap]
    exact List.flatMap_congr fun k hk => by rw [h k hk, List.map_singleton]
  rw [bindJoins_of_accepted haccepted, hjoins, hcolumns]

/-- The first foreign key without exactly one dimension is refused, unless it is in the grain. -/
theorem bindJoins_of_fault (hgrain : ∀ k ∈ q.foreignKeys, k ∉ q.grainColumns)
    (h : q.foreignKeys.find? (fun k => (m.dimensionsKeyedBy k).length ≠ 1) = some k) :
    q.bindJoins m = .error ⟨q.fromTable, k, m.keyFault k⟩ := by
  refine bindJoins_of_refused (h ▸ List.find?_congr fun x hx => ?_)
  rw [decide_eq_decide]
  exact refuses_iff_of_notMem (hgrain x hx)

end FactQuery

namespace Pipeline
variable {f : Fact}

theorem foreignKeys_bind_promote (plan : AggregationPlan) (f : Fact) :
    (plan.bind f.baseQuery.promote).foreignKeys = f.keyColumns :=
  f.promote_baseQuery_foreignKeys

/-- The pipeline succeeds or fails as its last pass does. -/
theorem run_standard (m : Model) (plan : AggregationPlan) (f : Fact) :
    (standard m plan).run (.base f.baseQuery) =
      match (plan.bind f.baseQuery.promote).bindJoins m with
      | .error e => .error ⟨f.name, .bindJoins, .unboundKey e⟩
      | .ok q => .ok (.fact q) := by
  simp only [standard, run, Pass.run]
  cases (plan.bind f.baseQuery.promote).bindJoins m with
  | error e => rfl
  | ok q => rfl

theorem run_standard_of_bound (h : ∀ k ∈ f.keyColumns, m.dimensionsKeyedBy k = [dim k]) :
    (standard m plan).run (.base f.baseQuery) = .ok (.fact (f.boundQuery plan dim)) := by
  rw [run_standard, FactQuery.bindJoins_of_bound (by rwa [foreignKeys_bind_promote])]
  simp only [AggregationPlan.bind, Fact.promote_baseQuery_foreignKeys,
    Fact.promote_baseQuery_measures]
  rfl

theorem run_standard_of_fault
    (h : f.keyColumns.find? (fun k => (m.dimensionsKeyedBy k).length ≠ 1) = some k) :
    (standard m plan).run (.base f.baseQuery) =
      .error ⟨f.name, .bindJoins, .unboundKey ⟨f.name, k, m.keyFault k⟩⟩ := by
  have hgrain : ∀ k ∈ f.keyColumns, k ∉ f.grain := fun k hk => (Fact.mem_keyColumns.1 hk).2.1
  rw [run_standard, FactQuery.bindJoins_of_fault (by rwa [foreignKeys_bind_promote])
    (by rwa [foreignKeys_bind_promote])]
  rfl

end Pipeline

theorem Model.bindsTo_of_bound {f : Fact} (hgrain : f.grain ≠ [])
    (h : ∀ k ∈ f.keyColumns, m.dimensionsKeyedBy k = [dim k]) :
    m.BindsTo plan f (f.boundQuery plan dim) :=
  ⟨f.baseQuery, Fact.toQuery_of_grain hgrain, Pipeline.run_standard_of_bound h⟩

end Binding
end FactViews
