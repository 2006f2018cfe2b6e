import FactViews.Proofs.Compilation

/-! # What runs of passes keep

`Query.MadeFrom` says what is true of every query that passes make from a base query, in whatever
number and order: one pass keeps it (`Pass.run_madeFrom`), so a run keeps it
(`Pipeline.run_madeFrom`). It rules out degenerate keys and every contradiction for which rendering
refuses a query, except that nothing is selected.

The two binding passes write different fields and read neither, so they commute; binding again
replaces what was bound before. A run of binding passes is therefore determined by its last plan
and by whether it binds joins (`Pipeline.run_binders`). -/

namespace FactViews
open Text

/-! ## Roles of labels -/

namespace BaseQuery
variable {b : BaseQuery}

theorem nodup_openLabels (b : BaseQuery) : b.openLabels.Nodup :=
  (nodup_firstOccurrences _).filter _

theorem notMem_groupBy_of_mem_openLabels (h : l ∈ b.openLabels) : l ∉ b.groupBy := by
  simpa using (List.mem_filter.1 h).2

theorem notMem_groupBy_of_mem_foreignKeyLabels (h : l ∈ b.foreignKeyLabels) : l ∉ b.groupBy :=
  notMem_groupBy_of_mem_openLabels (List.mem_filter.1 h).1

theorem notMem_groupBy_of_mem_measureLabels (h : l ∈ b.measureLabels) : l ∉ b.groupBy :=
  notMem_groupBy_of_mem_openLabels (List.mem_filter.1 h).1

theorem notMem_measureLabels_of_mem_foreignKeyLabels (h : l ∈ b.foreignKeyLabels) :
    l ∉ b.measureLabels := by
  intro hm
  have hkey := (List.mem_filter.1 h).2
  have hmeasure := (List.mem_filter.1 hm).2
  simp [hkey] at hmeasure

end BaseQuery

theorem Fact.groupBy_ne_nil_of_toQuery {f : Fact} {b : BaseQuery} (h : f.toQuery = .ok b) :
    b.groupBy ≠ [] := by
  by_cases hgrain : f.grain = []
  · simp [toQuery, hgrain] at h
  · rw [toQuery_of_grain hgrain] at h
    cases h
    exact hgrain

/-! ## Bound queries -/

namespace FactQuery

/-- Foreign keys, measures and grain columns have nothing in common, and no foreign key or measure
is repeated. -/
structure RolesApart (q : FactQuery) : Prop where
  foreignKeys : q.foreignKeys.Nodup
  measures : q.measures.Nodup
  keyMeasure : ∀ c ∈ q.foreignKeys, c ∉ q.measures
  keyGrain : ∀ c ∈ q.foreignKeys, c ∉ q.grainColumns
  measureGrain : ∀ c ∈ q.measures, c ∉ q.grainColumns

/-- No operator is bound, or each measure has one, in order. -/
def OperatorsMatch (q : FactQuery) : Prop :=
  q.aggregations.entries = [] ∨
    q.aggregations.names = q.measures ∧ ∀ e ∈ q.aggregations.entries, e.2.measure = e.1

/-- Joins and dimension columns are those of the foreign keys, in order, and every foreign key has
one dimension in the model. -/
def JoinedBy (m : Model) (q : FactQuery) : Prop :=
  ∃ dim : String → Dimension,
    (∀ k ∈ q.foreignKeys, m.dimensionsKeyedBy k = [dim k]) ∧
    q.dimensionColumns = q.foreignKeys.map (fun k => (dim k).qualifiedKey) ∧
    q.joins = q.foreignKeys.map fun k => .onKey q.fromTable k (dim k)

variable {q r : FactQuery} {m : Model}

/-- Unless a foreign key is in the grain, joins are bound for each of them or for none. -/
theorem joinedBy_of_bindJoins (hgrain : ∀ k ∈ q.foreignKeys, k ∉ q.grainColumns)
    (h : q.bindJoins m = .ok r) :
    r.JoinedBy m ∧ r = { q with joins := r.joins, dimensionColumns := r.dimensionColumns } := by
  cases hfind : q.foreignKeys.find? (fun k => (m.dimensionsKeyedBy k).length ≠ 1) with
  | some k =>
    rw [bindJoins_of_fault hgrain hfind] at h
    cases h
  | none =>
    have hone : ∀ k ∈ q.foreignKeys, (m.dimensionsKeyedBy k).length = 1 := fun k hk => by
      simpa using List.find?_eq_none.1 hfind k hk
    obtain ⟨dim, hdim⟩ := Model.exists_dim_of_unique hone
    rw [bindJoins_of_bound hdim] at h
    cases h
    refine ⟨⟨dim, hdim, List.map_congr_left fun k hk => ?_, rfl⟩, rfl⟩
    rw [Dimension.qualifiedKey, (Model.of_dimensionsKeyedBy_eq_singleton (hdim k hk)).2]

/-- A key outside of the grain is never skipped. -/
theorem bindKey_ne_degenerate (hk : k ∉ q.grainColumns) (m : Model) :
    q.bindKey m k ≠ .ok .degenerate := by
  unfold bindKey
  split
  · simp [hk]
  · simp
  · simp

/-- Matching operators contradict nothing. -/
theorem OperatorsMatch.aggregationBreach?_eq_none (h : q.OperatorsMatch)
    (he : e ∈ q.aggregations.entries) : q.aggregationBreach? e = none := by
  rcases h with hnil | ⟨hnames, hmeasure⟩
  · rw [hnil] at he
    cases he
  · have hmem : e.1 ∈ q.measures := hnames ▸ List.mem_map_of_mem he
    simp [aggregationBreach?, hmem, hmeasure e he]

theorem OperatorsMatch.breach? (h : q.OperatorsMatch) (hgroup : q.groupBy = q.grainColumns) :
    q.breach? =
      if q.grainColumns = [] ∧ q.dimensionColumns = [] ∧ q.aggregations.entries = [] then
        some .emptySelection
      else none := by
  have hentries : ∀ e ∈ q.aggregations.entries, q.aggregationBreach? e = none := fun e he =>
    h.aggregationBreach?_eq_none he
  rw [FactQuery.breach?, List.findSome?_eq_none_iff.2 hentries]
  simp [hgroup, Catalog.isEmpty, and_assoc]

/-- What is true of a fact query that passes have made from a base query. The model is the one
with which joins were bound last, if they were. -/
structure MadeFrom (b : BaseQuery) (joined : Option Model) (q : FactQuery) : Prop where
  groupBy : q.groupBy = b.groupBy
  grainColumns : q.grainColumns = b.groupBy
  foreignKeys : q.foreignKeys = b.foreignKeyLabels
  measures : q.measures = b.measureLabels
  operators : q.OperatorsMatch
  joins : ∀ m ∈ joined, q.JoinedBy m

variable {b : BaseQuery} {joined : Option Model}

theorem MadeFrom.rolesApart (h : q.MadeFrom b joined) : q.RolesApart := by
  refine ⟨?_, ?_, ?_, ?_, ?_⟩
  · rw [h.foreignKeys]
    exact b.nodup_openLabels.filter _
  · rw [h.measures]
    exact b.nodup_openLabels.filter _
  · rw [h.foreignKeys, h.measures]
    exact fun c hc => BaseQuery.notMem_measureLabels_of_mem_foreignKeyLabels hc
  · rw [h.foreignKeys, h.grainColumns]
    exact fun c hc => BaseQuery.notMem_groupBy_of_mem_foreignKeyLabels hc
  · rw [h.measures, h.grainColumns]
    exact fun c hc => BaseQuery.notMem_groupBy_of_mem_measureLabels hc

theorem madeFrom_promote (b : BaseQuery) : b.promote.MadeFrom b none where
  groupBy := rfl
  grainColumns := rfl
  foreignKeys := rfl
  measures := rfl
  operators := .inl rfl
  joins := nofun

theorem MadeFrom.bind (h : q.MadeFrom b joined) (plan : AggregationPlan) :
    (plan.bind q).MadeFrom b joined where
  groupBy := h.groupBy
  grainColumns := h.grainColumns
  foreignKeys := h.foreignKeys
  measures := h.measures
  joins := h.joins
  operators := by
    have hentries : (plan.bind q).aggregations.entries =
        q.measures.map fun c => (c, plan.bindMeasure c) := by
      rw [AggregationPlan.bind, Catalog.entries_ofList_map,
        firstOccurrences_of_nodup h.rolesApart.measures]
    refine .inr ⟨?_, fun e he => ?_⟩
    · rw [Catalog.names, hentries]
      simp [AggregationPlan.bind, Function.comp_def]
    · rw [hentries] at he
      obtain ⟨c, -, rfl⟩ := List.mem_map.1 he
      rfl

theorem MadeFrom.bindJoins (h : q.MadeFrom b joined) (hr : q.bindJoins m = .ok r) :
    r.MadeFrom b (some m) := by
  obtain ⟨hjoined, hfields⟩ := joinedBy_of_bindJoins h.rolesApart.keyGrain hr
  refine ⟨?_, ?_, ?_, ?_, ?_, ?_⟩
  · rw [hfields]; exact h.groupBy
  · rw [hfields]; exact h.grainColumns
  · rw [hfields]; exact h.foreignKeys
  · rw [hfields]; exact h.measures
  · rw [hfields]; exact h.operators
  · rintro _ ⟨⟩
    exact hjoined

/-- Nothing but an empty selection is left to refuse. -/
theorem MadeFrom.render_eq_error_iff (h : q.MadeFrom b joined) (d : Dialect) :
    d.render q = .error e ↔
      e = .breach q.fromTable .emptySelection ∧
        q.grainColumns = [] ∧ q.dimensionColumns = [] ∧ q.aggregations.entries = [] := by
  rw [Dialect.render, h.operators.breach? (h.groupBy.trans h.grainColumns.symm)]
  by_cases hempty : q.grainColumns = [] ∧ q.dimensionColumns = [] ∧ q.aggregations.entries = []
  · simp [hempty, eq_comm]
  · simp [hempty]

/-! ## Binding again -/

/-- The query in which exactly the given foreign keys are joined, with the given dimensions. -/
def withDimensions (q : FactQuery) (bound : List (String × Dimension)) : FactQuery :=
  { q with
    joins := bound.map fun b => q.joinWithDimension b.1 b.2
    dimensionColumns := bound.map fun b => b.2.qualifiedKey }

theorem bindJoins_eq_map (m : Model) (q : FactQuery) :
    q.bindJoins m = (q.keyDimensions m q.foreignKeys).map q.withDimensions := by
  unfold bindJoins
  cases q.keyDimensions m q.foreignKeys <;> rfl

/-- Which dimensions keys have does not depend on what has been bound. -/
theorem keyDimensions_congr (q' q : FactQuery) (htable : q'.fromTable = q.fromTable)
    (hgrain : q'.grainColumns = q.grainColumns) (m : Model) (ks : List String) :
    q'.keyDimensions m ks = q.keyDimensions m ks := by
  have hrefuses : q'.Refuses m = q.Refuses m := by
    funext k
    rw [Refuses, Refuses, hgrain]
  simp only [keyDimensions_eq, hrefuses, htable]

/-- Operators do not matter for joins. -/
theorem bindJoins_bind (plan : AggregationPlan) (q : FactQuery) (m : Model) :
    (plan.bind q).bindJoins m = (q.bindJoins m).map plan.bind := by
  have hkeys : (plan.bind q).keyDimensions m (plan.bind q).foreignKeys =
      q.keyDimensions m q.foreignKeys := keyDimensions_congr (plan.bind q) q rfl rfl m _
  rw [bindJoins_eq_map, bindJoins_eq_map, hkeys]
  cases q.keyDimensions m q.foreignKeys <;> rfl

/-- Binding joins a second time changes nothing. -/
theorem bindJoins_of_bindJoins (h : q.bindJoins m = .ok r) : r.bindJoins m = .ok r := by
  rw [bindJoins_eq_map] at h
  cases hkeys : q.keyDimensions m q.foreignKeys with
  | error e =>
    rw [hkeys] at h
    cases h
  | ok bound =>
    rw [hkeys] at h
    cases h
    have hagain : (q.withDimensions bound).keyDimensions m (q.withDimensions bound).foreignKeys =
        .ok bound := (keyDimensions_congr (q.withDimensions bound) q rfl rfl m _).trans hkeys
    rw [bindJoins_eq_map, hagain]
    rfl

end FactQuery

/-! ## Steps and runs -/

/-- What is true of a query that passes have made from a base query. -/
def Query.MadeFrom (b : BaseQuery) (joined : Option Model) : Query → Prop
  | .base b' => b' = b ∧ joined = none
  | .fact q => q.MadeFrom b joined

namespace Pass

/-- The plan of a pass that binds operators. -/
def plan? : Pass → Option AggregationPlan
  | .bindAggregation plan => some plan
  | _ => none

/-- The model of a pass that binds joins. -/
def model? : Pass → Option Model
  | .bindJoins m => some m
  | _ => none

theorem run_madeFrom {p : Pass} {r r' : Query} (h : r.MadeFrom b joined) (hrun : p.run r = .ok r') :
    r'.MadeFrom b (p.model?.or joined) := by
  cases r with
  | base b' =>
    obtain ⟨rfl, rfl⟩ := h
    cases p with
    | normalize =>
      cases hrun
      exact FactQuery.madeFrom_promote b'
    | bindAggregation | bindJoins => cases hrun
  | fact q =>
    cases p with
    | normalize => cases hrun
    | bindAggregation plan =>
      cases hrun
      exact FactQuery.MadeFrom.bind h plan
    | bindJoins m =>
      cases hq : q.bindJoins m with
      | error e => simp [run, hq] at hrun
      | ok q' =>
        simp only [run, hq, Except.ok.injEq] at hrun
        cases hrun
        exact FactQuery.MadeFrom.bindJoins h hq

end Pass

namespace Pipeline
variable {ps : Pipeline} {b : BaseQuery} {q : FactQuery}

/-- The plan with which a run binds operators last. -/
def lastPlan? (ps : Pipeline) : Option AggregationPlan := (ps.filterMap Pass.plan?).getLast?

/-- The model with which a run binds joins last. -/
def lastModel? (ps : Pipeline) : Option Model := (ps.filterMap Pass.model?).getLast?

theorem getLast?_filterMap_cons (f : α → Option β) (a : α) (as : List α) :
    ((a :: as).filterMap f).getLast? = (as.filterMap f).getLast?.or (f a) := by
  cases ha : f a with
  | none => simp [ha]
  | some c => simp [ha, List.getLast?_cons]

theorem lastPlan?_cons (p : Pass) (ps : Pipeline) :
    lastPlan? (p :: ps) = (lastPlan? ps).or p.plan? := getLast?_filterMap_cons ..

theorem lastModel?_cons (p : Pass) (ps : Pipeline) :
    lastModel? (p :: ps) = (lastModel? ps).or p.model? := getLast?_filterMap_cons ..

theorem run_madeFrom {r r' : Query} (h : r.MadeFrom b joined) (hrun : ps.run r = .ok r') :
    r'.MadeFrom b (ps.lastModel?.or joined) := by
  induction ps generalizing r joined with
  | nil =>
    cases hrun
    exact h
  | cons p ps ih =>
    cases hp : p.run r with
    | error e => simp [run, hp] at hrun
    | ok r₁ =>
      simp only [run, hp] at hrun
      -- the model of this pass counts unless a later pass binds joins again
      rw [lastModel?_cons, Option.or_assoc]
      exact ih (Pass.run_madeFrom h hp) hrun

theorem isSome_lastModel? (h : .bindJoins m ∈ ps) : ps.lastModel?.isSome := by
  have hmem : m ∈ ps.filterMap Pass.model? := List.mem_filterMap.2 ⟨_, h, rfl⟩
  rw [lastModel?, List.getLast?_isSome]
  exact List.ne_nil_of_mem hmem

/-- Whatever passes make a fact query of a base query, its columns keep their roles, its operators
and joins are those of its measures and foreign keys, no foreign key is in the grain, and it can
be rendered unless nothing is selected. If the base query is that of a fact, something is. -/
theorem contract_of_run (h : ps.run (.base b) = .ok (.fact q)) :
    q.groupBy = b.groupBy ∧ q.grainColumns = b.groupBy ∧ q.RolesApart ∧ q.OperatorsMatch ∧
    (∀ m, .bindJoins m ∈ ps → ∃ m', ps.lastModel? = some m' ∧ q.JoinedBy m') ∧
    (∀ m, ∀ k ∈ q.foreignKeys, q.bindKey m k ≠ .ok .degenerate) ∧
    (∀ (d : Dialect) e, d.render q = .error e ↔
      e = .breach q.fromTable .emptySelection ∧
        q.grainColumns = [] ∧ q.dimensionColumns = [] ∧ q.aggregations.entries = []) ∧
    RenderError.message (.breach q.fromTable .emptySelection) =
      "rendering contract violation in '" ++ q.fromTable ++ "': " ++ "SELECT list is empty" ∧
    ∀ f : Fact, f.toQuery = .ok b → ∀ d : Dialect, ∃ sql, d.render q = .ok sql := by
  have hmade : q.MadeFrom b ps.lastModel? := by
    have hbase : (Query.base b).MadeFrom b none := ⟨rfl, rfl⟩
    have hrun := run_madeFrom hbase h
    rwa [Option.or_none] at hrun
  have hroles := hmade.rolesApart
  refine ⟨hmade.groupBy, hmade.grainColumns, hroles, hmade.operators, fun m hm => ?_, fun m k hk =>
    FactQuery.bindKey_ne_degenerate (hroles.keyGrain k hk) m, fun d e =>
    hmade.render_eq_error_iff d, rfl, fun f hf d => ?_⟩
  · obtain ⟨m', hm'⟩ := Option.isSome_iff_exists.1 (isSome_lastModel? hm)
    exact ⟨m', hm', hmade.joins m' hm'⟩
  · cases hrender : d.render q with
    | ok sql => exact ⟨sql, rfl⟩
    | error e =>
      have hnil : q.grainColumns = [] := (hmade.render_eq_error_iff d).1 hrender |>.2.1
      exact absurd (hmade.grainColumns.symm.trans hnil) (Fact.groupBy_ne_nil_of_toQuery hf)

/-- Visits of customers, with one foreign key in the grain. -/
def visits : Fact where
  name := "fact_visits"
  grain := ["visit_id"]
  foreignKeys := ["customer_id", "visit_id"]
  measures := ["spend", "spend"]

/-- Joins and operators, each bound twice. -/
def rebinding : Pipeline :=
  [.bindJoins .territory, .bindAggregation {}, .bindJoins .territory,
    .bindAggregation { fallback := .avg }]

theorem visits_contract :
    ∃ q, run (.normalize :: rebinding) (.base visits.baseQuery) = .ok (.fact q) ∧
      q.foreignKeys = ["customer_id"] ∧ q.RolesApart ∧ q.OperatorsMatch ∧
      q.JoinedBy .territory ∧ ∃ sql, Dialect.postgres.render q = .ok sql := by
  have hrun : run (.normalize :: rebinding) (.base visits.baseQuery) =
      .ok (.fact (visits.boundQuery { fallback := .avg }
        fun _ => { name := "dim_customer", key := "customer_id" })) := by decide +kernel
  obtain ⟨-, -, hroles, hoperators, hjoins, -, -, -, hrender⟩ := contract_of_run hrun
  obtain ⟨m, ⟨⟩, hjoined⟩ := hjoins .territory (by decide)
  exact ⟨_, hrun, by decide, hroles, hoperators, hjoined, hrender visits (by decide) .postgres⟩

/-! ## Runs of binding passes -/

/-- Binds the operators of the last plan, if there is one. -/
def aggregate (ps : Pipeline) (q : FactQuery) : FactQuery :=
  match ps.lastPlan? with
  | some plan => plan.bind q
  | none => q

/-- The first of several plans is overwritten. -/
theorem aggregate_cons_bindAggregation (plan : AggregationPlan) (ps : Pipeline) (q : FactQuery) :
    aggregate (.bindAggregation plan :: ps) q = aggregate ps (plan.bind q) := by
  rw [aggregate, aggregate, lastPlan?_cons]
  cases lastPlan? ps <;> rfl

theorem aggregate_cons_bindJoins (m : Model) (ps : Pipeline) :
    aggregate (.bindJoins m :: ps) = aggregate ps := by
  funext q
  have hlast : lastPlan? (.bindJoins m :: ps) = lastPlan? ps :=
    (lastPlan?_cons ..).trans Option.or_none
  rw [aggregate, aggregate, hlast]

theorem fromTable_aggregate (ps : Pipeline) (q : FactQuery) :
    (aggregate ps q).fromTable = q.fromTable := by
  unfold aggregate
  split <;> rfl

theorem bindJoins_aggregate (ps : Pipeline) (q : FactQuery) (m : Model) :
    (aggregate ps q).bindJoins m = (q.bindJoins m).map (aggregate ps) := by
  unfold aggregate
  split
  · exact FactQuery.bindJoins_bind _ q m
  · cases q.bindJoins m <;> rfl

theorem run_bindJoins_of_error (h : q.bindJoins m = .error e) (ps : Pipeline) :
    run (.bindJoins m :: ps) (.fact q) = .error ⟨q.fromTable, .bindJoins, .unboundKey e⟩ := by
  simp only [run, Pass.run, h]
  rfl

theorem run_bindJoins_of_ok (h : q.bindJoins m = .ok r) (ps : Pipeline) :
    run (.bindJoins m :: ps) (.fact q) = run ps (.fact r) := by
  simp only [run, Pass.run, h]

/-- A run of passes that bind operators or join with one model does what its last plan and one
join with that model do, if it has them. -/
theorem run_binders (q : FactQuery)
    (h : ∀ p ∈ ps, (∃ plan, p = .bindAggregation plan) ∨ p = .bindJoins m) :
    ps.run (.fact q) =
      run (if .bindJoins m ∈ ps then [.bindJoins m] else []) (.fact (aggregate ps q)) := by
  induction ps generalizing q with
  | nil => rfl
  | cons p ps ih =>
    obtain ⟨hp, hps⟩ := List.forall_mem_cons.1 h
    rcases hp with ⟨plan, rfl⟩ | rfl
    · have hstep : run (.bindAggregation plan :: ps) (.fact q) = run ps (.fact (plan.bind q)) := rfl
      rw [hstep, ih _ hps, aggregate_cons_bindAggregation]
      simp only [List.mem_cons, reduceCtorEq, false_or]
    · rw [if_pos List.mem_cons_self, aggregate_cons_bindJoins]
      have hagg := bindJoins_aggregate ps q m
      cases hq : q.bindJoins m with
      | error e =>
        rw [hq] at hagg
        rw [run_bindJoins_of_error hq, run_bindJoins_of_error hagg, fromTable_aggregate]
      | ok r =>
        -- joins are bound from here on, so whether the rest binds them does not matter
        have hrest := bindJoins_aggregate ps r m
        rw [hq] at hagg
        rw [FactQuery.bindJoins_of_bindJoins hq] at hrest
        rw [run_bindJoins_of_ok hq, run_bindJoins_of_ok hagg, ih _ hps]
        split
        · exact run_bindJoins_of_ok hrest []
        · rfl

/-- Binding passes over one model can stand in any order and be repeated: promotion followed by
them gives what the standard pipeline with the last of their plans gives, a failure included. -/
theorem run_normalize_binders (b : BaseQuery)
    (hps : ∀ p ∈ ps, (∃ plan, p = .bindAggregation plan) ∨ p = .bindJoins m)
    (hjoins : .bindJoins m ∈ ps) (hplan : ps.lastPlan? = some plan) :
    run ([.normalize] ++ ps) (.base b) = (standard m plan).run (.base b) := by
  have hstandard : ∀ p ∈ [Pass.bindAggregation plan, .bindJoins m],
      (∃ plan, p = .bindAggregation plan) ∨ p = .bindJoins m := by simp
  have hagg : aggregate [.bindAggregation plan, .bindJoins m] = aggregate ps := by
    funext q
    rw [aggregate, aggregate, hplan]
    rfl
  calc run ([.normalize] ++ ps) (.base b)
    _ = run ps (.fact b.promote) := rfl
    _ = run [.bindJoins m] (.fact (aggregate ps b.promote)) := by
      rw [run_binders _ hps, if_pos hjoins]
    _ = run [.bindAggregation plan, .bindJoins m] (.fact b.promote) := by
      rw [run_binders _ hstandard, hagg, if_pos (by simp)]
    _ = (standard m plan).run (.base b) := rfl

/-- The second query has a key column that two dimensions share. -/
theorem run_rebinding :
    run ([.normalize] ++ rebinding) (.base visits.baseQuery) =
      (standard .territory { fallback := .avg }).run (.base visits.baseQuery) ∧
    run ([.normalize] ++ rebinding)
        (.base { select := [.column "area_id"], fromTable := "fact_areas" }) =
      .error ⟨"fact_areas", .bindJoins,
        .unboundKey ⟨"fact_areas", "area_id", .shared ["dim_region", "dim_zone"]⟩⟩ := by
  have hbinders : ∀ p ∈ rebinding,
      (∃ plan, p = .bindAggregation plan) ∨ p = .bindJoins .territory := by simp [rebinding]
  refine ⟨run_normalize_binders _ hbinders (by decide) rfl, ?_⟩
  rw [run_normalize_binders _ hbinders (by decide) rfl]
  decide +kernel

end Pipeline
end FactViews
