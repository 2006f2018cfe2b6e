import Mathlib.Data.List.Basic
import FactViews.Report
import FactViews.Proofs.BoundQuery

/-! # What compiling a fact gives

`Fact.statement` is the text of a fact's statement in terms of its declaration, the dimensions of
its key columns and the chosen options. A fact without a grain is refused when its query is
built, a fact with a key column that does not have exactly one dimension is refused when joins
are bound, and every other fact compiles to its statement: the query that the pipeline hands over
has none of the contradictions for which rendering would refuse it. -/

namespace FactViews
open Text

namespace Fact

/-- The statement of a fact whose key columns have the given dimensions. -/
def statement (f : Fact) (o : CompileOptions) (dim : String → Dimension) : String :=
  "SELECT\n  " ++ joinWith ",\n  "
    ((firstOccurrences (f.grain ++ f.keyColumns.map fun k => (dim k).name ++ "." ++ k)).map
        o.dialect.quoteQualified ++
      f.measureColumns.map fun x =>
        (o.plan.operatorFor x).keyword ++ "(" ++ o.dialect.quote x ++ ") AS " ++
          o.dialect.quote x) ++
  "\nFROM " ++ o.dialect.quoteQualified f.name ++
  String.join (f.keyColumns.map fun k =>
    "\nLEFT JOIN " ++ o.dialect.quoteQualified (dim k).name ++
      " ON " ++ o.dialect.quoteQualified (f.name ++ "." ++ k) ++
      " = " ++ o.dialect.quoteQualified ((dim k).name ++ "." ++ k)) ++
  "\nGROUP BY " ++ joinWith ", " (f.grain.map o.dialect.quoteQualified)

variable {f : Fact} {dim : String → Dimension}

theorem aggregatedColumns_boundQuery (f : Fact) (plan : AggregationPlan)
    (dim : String → Dimension) :
    (f.boundQuery plan dim).aggregatedColumns =
      f.measureColumns.map fun x => (x, plan.operatorFor x) := by
  have hfind : ∀ x ∈ f.measureColumns,
      ((f.boundQuery plan dim).aggregations.find? x).map (fun b => (x, b.operator)) =
        some (x, plan.operatorFor x) := by
    intro x hx
    rw [boundQuery, Catalog.find?_ofList_map plan.bindMeasure hx]
    rfl
  exact List.filterMap_eq_map_iff_forall_eq_some.2 hfind

/-- Every operator stands under the measure it is bound to. -/
theorem breach?_boundQuery (h : f.grain ≠ []) (plan : AggregationPlan) :
    (f.boundQuery plan dim).breach? = none := by
  have hentries : ∀ e ∈ (f.boundQuery plan dim).aggregations.entries,
      (f.boundQuery plan dim).aggregationBreach? e = none := by
    intro e he
    rw [boundQuery, Catalog.entries_ofList_map] at he
    obtain ⟨x, hx, rfl⟩ := List.mem_map.1 he
    simp [FactQuery.aggregationBreach?, boundQuery, AggregationPlan.bindMeasure,
      mem_firstOccurrences.1 hx]
  rw [FactQuery.breach?, List.findSome?_eq_none_iff.2 hentries]
  simp [boundQuery, baseQuery, h]

theorem renderSelect_boundQuery (o : CompileOptions) :
    o.dialect.renderSelect (f.boundQuery o.plan dim) =
      "SELECT\n  " ++ joinWith ",\n  "
        ((firstOccurrences (f.grain ++ f.keyColumns.map fun k => (dim k).name ++ "." ++ k)).map
            o.dialect.quoteQualified ++
          f.measureColumns.map fun x =>
            (o.plan.operatorFor x).keyword ++ "(" ++ o.dialect.quote x ++ ") AS " ++
              o.dialect.quote x) := by
  rw [Dialect.renderSelect, aggregatedColumns_boundQuery, List.map_map]
  rfl

theorem renderJoins_boundQuery (o : CompileOptions) :
    String.join (((f.boundQuery o.plan dim).joins.map o.dialect.renderJoin).map ("\n" ++ ·)) =
      String.join (f.keyColumns.map fun k =>
        "\nLEFT JOIN " ++ o.dialect.quoteQualified (dim k).name ++
          " ON " ++ o.dialect.quoteQualified (f.name ++ "." ++ k) ++
          " = " ++ o.dialect.quoteQualified ((dim k).name ++ "." ++ k)) := by
  simp only [boundQuery, Join.onKey, List.map_map, Function.comp_def, Dialect.renderJoin,
    JoinKind.keyword, ← String.append_assoc, String.reduceAppend]

theorem render_boundQuery (h : f.grain ≠ []) (o : CompileOptions) :
    o.dialect.render (f.boundQuery o.plan dim) = .ok (f.statement o dim) := by
  have hfrom : "\n" ++ o.dialect.renderFrom (f.boundQuery o.plan dim) =
      "\nFROM " ++ o.dialect.quoteQualified f.name := by
    rw [Dialect.renderFrom, ← String.append_assoc]
    rfl
  have hgroup : (o.dialect.renderGroupBy (f.boundQuery o.plan dim).groupBy).map ("\n" ++ ·) =
      ["\nGROUP BY " ++ joinWith ", " (f.grain.map o.dialect.quoteQualified)] := by
    simp [Dialect.renderGroupBy, boundQuery, baseQuery, h, ← String.append_assoc]
  rw [Dialect.render, breach?_boundQuery h]
  simp only [Dialect.clauses, joinWith_cons, List.map_cons, List.map_append, String.join_cons,
    String.join_append, String.join_nil, hfrom, hgroup, renderSelect_boundQuery,
    renderJoins_boundQuery, statement, String.append_assoc, String.append_empty]

end Fact

namespace Model
variable {m : Model} {f : Fact} {dim : String → Dimension}

theorem compileFact_of_no_grain (o : CompileOptions) (h : f.grain = []) :
    m.compileFact o f = .error ⟨f.name, .build, .build ⟨f.name⟩⟩ := by
  have hbase : f.toQuery = .error ⟨f.name⟩ := by simp [Fact.toQuery, h]
  rw [compileFact, factStatement, hbase]
  rfl

theorem compileFact_of_fault (o : CompileOptions) (hgrain : f.grain ≠ [])
    (h : f.keyColumns.find? (fun k => (m.dimensionsKeyedBy k).length ≠ 1) = some k) :
    m.compileFact o f =
      .error ⟨f.name, .pass .bindJoins,
        .pipeline ⟨f.name, .bindJoins, .unboundKey ⟨f.name, k, m.keyFault k⟩⟩⟩ := by
  simp only [compileFact, factStatement, Fact.toQuery_of_grain hgrain,
    Pipeline.run_standard_of_fault h, CompileError.stage]

theorem compileFact_of_bound (o : CompileOptions) (hgrain : f.grain ≠ [])
    (h : ∀ k ∈ f.keyColumns, m.dimensionsKeyedBy k = [dim k]) :
    m.compileFact o f = .ok ⟨f.name, f.statement o dim⟩ := by
  simp only [compileFact, factStatement, Fact.toQuery_of_grain hgrain,
    Pipeline.run_standard_of_bound h, Dialect.renderQuery, Fact.render_boundQuery hgrain]

/-- Keys that have one dimension each have a function that gives it. -/
theorem exists_dim_of_unique {ks : List String}
    (h : ∀ k ∈ ks, (m.dimensionsKeyedBy k).length = 1) :
    ∃ dim : String → Dimension, ∀ k ∈ ks, m.dimensionsKeyedBy k = [dim k] := by
  refine ⟨fun k => (m.dimensionsKeyedBy k).headD default, fun k hk => ?_⟩
  obtain ⟨d, hd⟩ := List.length_eq_one_iff.1 (h k hk)
  simp [hd]

/-- The three ways in which the compilation of a fact ends. -/
theorem compileFact_cases (m : Model) (o : CompileOptions) (f : Fact) :
    (f.grain = [] ∧ m.compileFact o f = .error ⟨f.name, .build, .build ⟨f.name⟩⟩) ∨
    (f.grain ≠ [] ∧ ∃ k, f.keyColumns.find? (fun k => (m.dimensionsKeyedBy k).length ≠ 1) = some k ∧
      m.compileFact o f =
        .error ⟨f.name, .pass .bindJoins,
          .pipeline ⟨f.name, .bindJoins, .unboundKey ⟨f.name, k, m.keyFault k⟩⟩⟩) ∨
    (f.grain ≠ [] ∧ ∃ dim : String → Dimension,
      (∀ k ∈ f.keyColumns, m.dimensionsKeyedBy k = [dim k]) ∧
      m.compileFact o f = .ok ⟨f.name, f.statement o dim⟩) := by
  by_cases hgrain : f.grain = []
  · exact .inl ⟨hgrain, compileFact_of_no_grain o hgrain⟩
  right
  cases hfind : f.keyColumns.find? (fun k => (m.dimensionsKeyedBy k).length ≠ 1) with
  | some k => exact .inl ⟨hgrain, k, rfl, compileFact_of_fault o hgrain hfind⟩
  | none =>
    have hone : ∀ k ∈ f.keyColumns, (m.dimensionsKeyedBy k).length = 1 := fun k hk => by
      simpa using List.find?_eq_none.1 hfind k hk
    obtain ⟨dim, hdim⟩ := exists_dim_of_unique hone
    exact .inr ⟨hgrain, dim, hdim, compileFact_of_bound o hgrain hdim⟩

/-- A fact without a grain fails when its query is built. Any other fact fails when joins are
bound, and for its first key column without exactly one dimension, if there is such a column;
otherwise it compiles to its statement. -/
theorem compileFact_outcome (m : Model) (o : CompileOptions) (f : Fact) :
    (f.grain = [] → m.compileFact o f = .error ⟨f.name, .build, .build ⟨f.name⟩⟩) ∧
    (f.grain ≠ [] → ∀ k,
      f.keyColumns.find? (fun k => (m.dimensionsKeyedBy k).length ≠ 1) = some k →
      (m.dimensionsKeyedBy k = [] → m.compileFact o f =
        .error ⟨f.name, .pass .bindJoins,
          .pipeline ⟨f.name, .bindJoins, .unboundKey ⟨f.name, k, .unresolved⟩⟩⟩) ∧
      (2 ≤ (m.dimensionsKeyedBy k).length → m.compileFact o f =
        .error ⟨f.name, .pass .bindJoins,
          .pipeline ⟨f.name, .bindJoins, .unboundKey ⟨f.name, k,
            .shared ((m.dimensionsKeyedBy k).map Dimension.name)⟩⟩⟩)) ∧
    (f.grain ≠ [] → (∀ k ∈ f.keyColumns, (m.dimensionsKeyedBy k).length = 1) →
      ∃ dim : String → Dimension, (∀ k ∈ f.keyColumns, m.dimensionsKeyedBy k = [dim k]) ∧
        m.compileFact o f = .ok ⟨f.name, f.statement o dim⟩) := by
  refine ⟨compileFact_of_no_grain o, fun hgrain k hfind => ⟨fun hzero => ?_, fun htwo => ?_⟩,
    fun hgrain hone => ?_⟩
  · rw [compileFact_of_fault o hgrain hfind, keyFault, if_pos hzero]
  · have hne : m.dimensionsKeyedBy k ≠ [] := by
      intro hnil
      simp [hnil] at htwo
    rw [compileFact_of_fault o hgrain hfind, keyFault, if_neg hne]
  · obtain ⟨dim, hdim⟩ := exists_dim_of_unique hone
    exact ⟨dim, hdim, compileFact_of_bound o hgrain hdim⟩

/-- Customers with a key of their own, and two dimensions that share a key. -/
def territory : Model :=
  ((Model.empty.addDimension { name := "dim_customer", key := "customer_id" }).addDimension
    { name := "dim_region", key := "area_id" }).addDimension
    { name := "dim_zone", key := "area_id" }

/-- Visits with two key columns, the second of which has two dimensions. -/
def areaVisits : Fact where
  name := "fact_visits"
  grain := ["visit_id"]
  foreignKeys := ["customer_id"]
  measures := ["area_id"]

/-- Orders with repeated columns, one of them in the grain. -/
def repeatedOrders : Fact where
  name := "fact_orders"
  grain := ["order_id"]
  foreignKeys := ["customer_id", "order_id", "customer_id"]
  measures := ["amount", "ship_date", "amount"]

/-- Facts that end in each of the three ways. Repeated columns are selected once, and a foreign key
in the grain stays a grain column. -/
theorem territory_outcomes :
    territory.compileFact {} { name := "fact_empty" } =
      .error ⟨"fact_empty", .build, .build ⟨"fact_empty"⟩⟩ ∧
    territory.compileFact {} areaVisits =
      .error ⟨"fact_visits", .pass .bindJoins, .pipeline ⟨"fact_visits", .bindJoins,
        .unboundKey ⟨"fact_visits", "area_id", .shared ["dim_region", "dim_zone"]⟩⟩⟩ ∧
    territory.compileFact {} repeatedOrders = .ok ⟨"fact_orders",
      "SELECT\n  order_id,\n  dim_customer.customer_id,\n  SUM(amount) AS amount\n" ++
      "FROM fact_orders\n" ++
      "LEFT JOIN dim_customer ON fact_orders.customer_id = dim_customer.customer_id\n" ++
      "GROUP BY order_id"⟩ := by
  have hnames : (territory.dimensionsKeyedBy "area_id").map Dimension.name =
      ["dim_region", "dim_zone"] := by decide +kernel
  have hkeys : repeatedOrders.keyColumns = ["customer_id"] := by decide +kernel
  have hcustomers : territory.dimensionsKeyedBy "customer_id" =
      [{ name := "dim_customer", key := "customer_id" }] := by decide +kernel
  obtain ⟨dim, hdim, hok⟩ := (compileFact_outcome territory {} repeatedOrders).2.2
    (by decide) (by decide +kernel)
  have hcustomer : dim "customer_id" = { name := "dim_customer", key := "customer_id" } :=
    List.singleton_inj.1 ((hdim "customer_id" (by simp [hkeys])).symm.trans hcustomers)
  refine ⟨(compileFact_outcome _ _ _).1 rfl, ?_, ?_⟩
  · rw [← hnames]
    exact ((compileFact_outcome territory {} areaVisits).2.1
      (by decide) "area_id" (by decide +kernel)).2 (by decide +kernel)
  · rw [hok, Fact.statement, hkeys]
    simp only [List.map_cons, List.map_nil, hcustomer]
    decide +kernel

theorem mem_failures_compile {o : CompileOptions} {e : FactFailure} :
    e ∈ (m.compile o).failures ↔ ∃ f ∈ m.facts.values, m.compileFact o f = .error e := by
  simp only [compile, Report.ofOutcomes, List.mem_filterMap, List.mem_map]
  constructor
  · rintro ⟨_, ⟨f, hf, rfl⟩, h⟩
    refine ⟨f, hf, ?_⟩
    cases hout : m.compileFact o f with
    | ok c => simp [hout] at h
    | error e' => simpa [hout] using h
  · rintro ⟨f, hf, h⟩
    exact ⟨_, ⟨f, hf, h⟩, rfl⟩

theorem isSuccess_compile_iff {o : CompileOptions} :
    (m.compile o).isSuccess = true ↔ ∀ f ∈ m.facts.values, ∃ c, m.compileFact o f = .ok c := by
  rw [Report.isSuccess, List.isEmpty_iff, List.eq_nil_iff_forall_not_mem]
  simp only [mem_failures_compile, not_exists, not_and]
  refine ⟨fun h f hf => ?_, fun h e f hf he => ?_⟩
  · cases hout : m.compileFact o f with
    | ok c => exact ⟨c, rfl⟩
    | error e => exact (h e f hf hout).elim
  · obtain ⟨c, hc⟩ := h f hf
    rw [he] at hc
    cases hc

end Model
end FactViews
