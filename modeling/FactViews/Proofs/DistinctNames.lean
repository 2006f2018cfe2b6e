import Mathlib.Data.Finset.Card
import FactViews.Proofs.BatchReport
import FactViews.Proofs.PipelineRuns
import FactViews.Proofs.ValidatedCompilation

/-! # Distinct names in a statement

The columns that a compiled fact selects come out under distinct names, and the tables that it
joins are distinct: foreign keys are not repeated, each of them has a dimension of its own, and no
two dimensions of a model share a name. Names of facts and of dimensions are never compared, so the
table of the fact can be joined as well, and this happens exactly when a dimension of the fact's
own name is keyed by one of its key columns (`Document.JoinsItself`). Otherwise every qualified
column is qualified by the name of one table of the statement. -/

namespace FactViews
open Text

namespace FactQuery
variable {m : Model} {q : FactQuery}

/-! ## Output names -/

/-- The name under which a grain or dimension column comes out: a grain column under its own name,
any other one under the foreign key it was bound for. -/
def columnName (q : FactQuery) (column : String) : String :=
  if column ∈ q.grainColumns then column
  else q.foreignKeys[q.dimensionColumns.idxOf column]?.getD column

/-- The names of the selected columns, in the order of selection. -/
def outputNames (q : FactQuery) : List String :=
  q.plainColumns.map q.columnName ++ q.aggregatedColumns.map Prod.fst

theorem map_fst_aggregatedColumns_sublist (q : FactQuery) :
    (q.aggregatedColumns.map Prod.fst).Sublist q.measures := by
  unfold aggregatedColumns
  induction q.measures with
  | nil => exact .slnil
  | cons x xs ih =>
    cases hx : q.aggregations.find? x with
    | none =>
      rw [List.filterMap_cons_none (by rw [hx]; rfl)]
      exact ih.cons x
    | some a =>
      rw [List.filterMap_cons_some (by rw [hx]; rfl)]
      exact ih.cons_cons x

theorem exists_columnName {g : String → String} (hcolumns : q.dimensionColumns = q.foreignKeys.map g)
    (hc : c ∈ q.dimensionColumns) (hgrain : c ∉ q.grainColumns) :
    ∃ k ∈ q.foreignKeys, q.columnName c = k ∧ g k = c := by
  have hlt : q.dimensionColumns.idxOf c < q.dimensionColumns.length := List.idxOf_lt_length_iff.2 hc
  have hlt' : q.dimensionColumns.idxOf c < q.foreignKeys.length := by
    rwa [hcolumns, List.length_map, ← hcolumns] at hlt
  refine ⟨q.foreignKeys[q.dimensionColumns.idxOf c], List.getElem_mem _, ?_, ?_⟩
  · rw [columnName, if_neg hgrain, List.getElem?_eq_getElem hlt', Option.getD_some]
  · have hget := List.getElem_idxOf hlt
    simp only [hcolumns, List.getElem_map] at hget
    simpa only [hcolumns] using hget

theorem columnName_cases {g : String → String} (hcolumns : q.dimensionColumns = q.foreignKeys.map g)
    (hc : c ∈ q.plainColumns) :
    c ∈ q.grainColumns ∧ q.columnName c = c ∨ ∃ k ∈ q.foreignKeys, q.columnName c = k ∧ g k = c := by
  by_cases hgrain : c ∈ q.grainColumns
  · exact .inl ⟨hgrain, if_pos hgrain⟩
  · have hmem := List.mem_append.1 (mem_firstOccurrences.1 hc)
    exact .inr (exists_columnName hcolumns (hmem.resolve_left hgrain) hgrain)

/-- Two columns with one name are one column: grain columns keep their text, and a foreign key
gives one text only. -/
theorem nodup_outputNames (hroles : q.RolesApart) (hjoined : q.JoinedBy m) :
    q.outputNames.Nodup := by
  obtain ⟨dim, -, hcolumns, -⟩ := hjoined
  have hmeasures := map_fst_aggregatedColumns_sublist q
  refine List.nodup_append.2 ⟨?_, hmeasures.nodup hroles.measures, ?_⟩
  · refine List.Nodup.map_on (fun c hc c' hc' heq => ?_) (nodup_firstOccurrences _)
    rcases columnName_cases hcolumns hc with ⟨hg, hcn⟩ | ⟨k, hk, hcn, hkc⟩
    · rcases columnName_cases hcolumns hc' with ⟨hg', hcn'⟩ | ⟨k', hk', hcn', hkc'⟩
      · rw [← hcn, heq, hcn']
      · rw [hcn, hcn'] at heq
        exact absurd (heq ▸ hg) (hroles.keyGrain k' hk')
    · rcases columnName_cases hcolumns hc' with ⟨hg', hcn'⟩ | ⟨k', hk', hcn', hkc'⟩
      · rw [hcn, hcn'] at heq
        exact absurd (heq ▸ hg') (hroles.keyGrain k hk)
      · rw [hcn, hcn'] at heq
        rw [← hkc, heq, hkc']
  · rintro a ha x hx rfl
    obtain ⟨c, hc, hcn⟩ := List.mem_map.1 ha
    have hmeasure : a ∈ q.measures := hmeasures.subset hx
    rcases columnName_cases hcolumns hc with ⟨hg, hcc⟩ | ⟨k, hk, hck, -⟩
    · rw [← hcn, hcc] at hmeasure
      exact hroles.measureGrain c hmeasure hg
    · rw [← hcn, hck] at hmeasure
      exact hroles.keyMeasure k hk hmeasure

/-- The names of all columns, whether selected or left out because their text is there already. -/
theorem RolesApart.nodup_names (hroles : q.RolesApart) :
    (firstOccurrences q.grainColumns ++ q.foreignKeys ++
      q.aggregatedColumns.map Prod.fst).Nodup := by
  have hmeasures := map_fst_aggregatedColumns_sublist q
  refine List.nodup_append.2 ⟨List.nodup_append.2 ⟨nodup_firstOccurrences _, hroles.foreignKeys,
    ?_⟩, hmeasures.nodup hroles.measures, ?_⟩
  · rintro g hg k hk rfl
    exact hroles.keyGrain g hk (mem_firstOccurrences.1 hg)
  · rintro a ha x hx rfl
    rcases List.mem_append.1 ha with hg | hk
    · exact hroles.measureGrain a (hmeasures.subset hx) (mem_firstOccurrences.1 hg)
    · exact hroles.keyMeasure a hk (hmeasures.subset hx)

/-! ## Joined tables -/

/-- A join is made on the key of the dimension that is known under the name of the joined table. -/
theorem JoinedBy.exists_dimension (hjoined : q.JoinedBy m) (hm : m.Built) (hj : j ∈ q.joins) :
    ∃ d, m.dimensions.find? j.table = some d ∧ d.key ∈ q.foreignKeys ∧
      j = .onKey q.fromTable d.key d := by
  obtain ⟨dim, hdim, -, hjoins⟩ := hjoined
  rw [hjoins] at hj
  obtain ⟨k, hk, rfl⟩ := List.mem_map.1 hj
  obtain ⟨hvalue, hkey⟩ := Model.of_dimensionsKeyedBy_eq_singleton (hdim k hk)
  refine ⟨dim k, hm.find?_dimensions.2 ⟨hvalue, rfl⟩, ?_, ?_⟩
  · rwa [hkey]
  · rw [hkey]

/-- Dimensions of one name are one dimension, and it has one key. -/
theorem JoinedBy.nodup_tables (hjoined : q.JoinedBy m) (hm : m.Built) (hkeys : q.foreignKeys.Nodup) :
    (q.joins.map Join.table).Nodup := by
  obtain ⟨dim, hdim, -, hjoins⟩ := hjoined
  have hmem : ∀ k ∈ q.foreignKeys, dim k ∈ m.dimensions.values ∧ (dim k).key = k := fun k hk =>
    Model.of_dimensionsKeyedBy_eq_singleton (hdim k hk)
  rw [hjoins, List.map_map]
  refine List.Nodup.map_on (fun k hk k' hk' hname => ?_) hkeys
  have hfind : m.dimensions.find? (dim k).name = some (dim k) :=
    hm.find?_dimensions.2 ⟨(hmem k hk).1, rfl⟩
  have hfind' : m.dimensions.find? (dim k).name = some (dim k') :=
    hm.find?_dimensions.2 ⟨(hmem k' hk').1, hname.symm⟩
  have hsame : dim k = dim k' := Option.some.inj (hfind.symm.trans hfind')
  rw [← (hmem k hk).2, hsame, (hmem k' hk').2]

end FactQuery

/-! ## Compiled facts -/

namespace Model
variable {m : Model} {f : Fact} {o : CompileOptions} {c : CompiledFact}

/-- The query behind the statement of a compiled fact. -/
theorem exists_query_of_compileFact (hc : m.compileFact o f = .ok c) :
    ∃ q, m.BindsTo o.plan f q ∧ o.dialect.render q = .ok c.sql ∧ q.fromTable = f.name ∧
      q.foreignKeys = f.keyColumns ∧ q.RolesApart ∧ q.JoinedBy m := by
  rcases m.compileFact_cases o f with ⟨-, herror⟩ | ⟨-, k, -, herror⟩ | ⟨hgrain, dim, hdim, hok⟩
  · rw [herror] at hc
    cases hc
  · rw [herror] at hc
    cases hc
  · rw [hok] at hc
    cases hc
    have hbase : (Query.base f.baseQuery).MadeFrom f.baseQuery none := ⟨rfl, rfl⟩
    have hmade : (f.boundQuery o.plan dim).MadeFrom f.baseQuery (some m) :=
      Pipeline.run_madeFrom hbase (Pipeline.run_standard_of_bound hdim)
    exact ⟨f.boundQuery o.plan dim, bindsTo_of_bound hgrain hdim, Fact.render_boundQuery hgrain o,
      rfl, rfl, hmade.rolesApart, hmade.joins m rfl⟩

end Model

theorem Fact.nodup_keyColumns (f : Fact) : f.keyColumns.Nodup :=
  ((nodup_firstOccurrences _).filter _).filter _

theorem Fact.length_keyColumns (f : Fact) :
    f.keyColumns.length =
      (f.columns.filter fun x => x ∉ f.grain ∧ endsIn "_id" x = true).toFinset.card := by
  rw [← List.toFinset_card_of_nodup f.nodup_keyColumns]
  congr 1
  ext x
  rw [List.mem_toFinset, List.mem_toFinset, mem_keyColumns, List.mem_filter, columns]
  simp only [List.mem_append, decide_eq_true_eq]
  tauto

namespace Model
variable {m : Model} {f : Fact} {o : CompileOptions} {c : CompiledFact}

/-- A compiled fact selects no name twice and joins no table twice, whatever its declaration
repeats. Every join is on the key of the dimension it joins, and there is one for every column that
is named like a foreign key and is not in the grain. -/
theorem Built.distinct_names (hm : m.Built) (hc : m.compileFact o f = .ok c) :
    ∃ q, m.BindsTo o.plan f q ∧ o.dialect.render q = .ok c.sql ∧ q.JoinedBy m ∧
      q.outputNames.Nodup ∧
      (firstOccurrences q.grainColumns ++ q.foreignKeys ++
        q.aggregatedColumns.map Prod.fst).Nodup ∧
      (q.joins.map Join.table).Nodup ∧
      (∀ j ∈ q.joins, ∃ d, m.dimensions.find? j.table = some d ∧ j.right = d.qualifiedKey ∧
        j.left = f.name ++ "." ++ d.key) ∧
      q.joins.length =
        (f.columns.filter fun x => x ∉ f.grain ∧ endsIn "_id" x = true).toFinset.card := by
  obtain ⟨q, hbinds, hrender, htable, hkeys, hroles, hjoined⟩ := exists_query_of_compileFact hc
  refine ⟨q, hbinds, hrender, hjoined, FactQuery.nodup_outputNames hroles hjoined,
    hroles.nodup_names, hjoined.nodup_tables hm hroles.foreignKeys, fun j hj => ?_, ?_⟩
  · obtain ⟨d, hd, -, hjoin⟩ := hjoined.exists_dimension hm hj
    refine ⟨d, hd, ?_, ?_⟩
    · rw [hjoin]
      rfl
    · rw [hjoin, ← htable]
      rfl
  · obtain ⟨dim, -, -, hjoins⟩ := hjoined
    rw [hjoins, List.length_map, hkeys, f.length_keyColumns]

/-- Rides with repeated columns, one of which is a foreign key and a measure, another one a grain
column and a foreign key. -/
def crowdedRides : Fact where
  name := "fact_rides"
  grain := ["ride_id", "ride_id"]
  foreignKeys := ["customer_id", "ride_id", "customer_id"]
  measures := ["fare", "customer_id", "fare"]

theorem crowdedRides_distinct :
    ∃ c q, territory.compileFact {} crowdedRides = .ok c ∧ territory.BindsTo {} crowdedRides q ∧
      q.outputNames.Nodup ∧ (q.joins.map Join.table).Nodup ∧ q.joins.length = 1 := by
  have hbuilt : territory.Built := .addDimension _ (.addDimension _ (.addDimension _ .empty))
  obtain ⟨c, hc⟩ : ∃ c, territory.compileFact {} crowdedRides = .ok c :=
    ⟨⟨"fact_rides", crowdedRides.statement {}
      fun _ => { name := "dim_customer", key := "customer_id" }⟩, by decide +kernel⟩
  obtain ⟨q, hbinds, -, -, hnames, -, htables, -, hlength⟩ := hbuilt.distinct_names hc
  exact ⟨c, q, hc, hbinds, hnames, htables, hlength.trans (by decide +kernel)⟩

end Model

/-! ## The table of the fact -/

namespace FactQuery
variable {m : Model} {q : FactQuery}

/-- The tables of a statement: the one of the fact, then the joined ones. -/
def tables (q : FactQuery) : List String := q.fromTable :: q.joins.map Join.table

/-- The qualified columns in the join conditions and in the selection. -/
def references (q : FactQuery) : List String :=
  q.joins.flatMap (fun j => [j.left, j.right]) ++ q.dimensionColumns

theorem JoinedBy.exists_table (hjoined : q.JoinedBy m) (hr : r ∈ q.references) :
    ∃ t ∈ q.tables, ∃ k ∈ q.foreignKeys, r = t ++ "." ++ k := by
  obtain ⟨dim, hdim, hcolumns, hjoins⟩ := hjoined
  have htable : ∀ k ∈ q.foreignKeys, (dim k).name ∈ q.tables := by
    intro k hk
    rw [tables, hjoins, List.map_map]
    exact List.mem_cons_of_mem _ (List.mem_map_of_mem hk)
  rcases List.mem_append.1 hr with hside | hcolumn
  · rw [hjoins] at hside
    obtain ⟨j, hj, hside⟩ := List.mem_flatMap.1 hside
    obtain ⟨k, hk, rfl⟩ := List.mem_map.1 hj
    rcases List.mem_pair.1 hside with rfl | rfl
    · exact ⟨q.fromTable, List.mem_cons_self, k, hk, rfl⟩
    · exact ⟨(dim k).name, htable k hk, k, hk, rfl⟩
  · rw [hcolumns] at hcolumn
    obtain ⟨k, hk, rfl⟩ := List.mem_map.1 hcolumn
    refine ⟨(dim k).name, htable k hk, k, hk, ?_⟩
    rw [Dimension.qualifiedKey, (Model.of_dimensionsKeyedBy_eq_singleton (hdim k hk)).2]

end FactQuery

namespace Document
variable {d : Document} {e : String × FactSpec}

/-- A dimension of the fact's own name is keyed by a key column of the fact. -/
def JoinsItself (d : Document) (e : String × FactSpec) : Prop :=
  ∃ s k, (e.1, s) ∈ d.dimensions.entries ∧ s.key = some k ∧
    (k ∈ e.2.foreignKeys ∨ k ∈ e.2.measures) ∧ k ∉ e.2.grain ∧ endsIn "_id" k = true

theorem WellFormed.joins_fromTable_iff (H : d.WellFormed) {q : FactQuery}
    (htable : q.fromTable = e.1) (hkeys : q.foreignKeys = (e.2.toFact e.1).keyColumns)
    (hjoined : q.JoinedBy d.model) :
    (∃ j ∈ q.joins, j.table = q.fromTable) ↔ d.JoinsItself e := by
  obtain ⟨dim, hdim, -, hjoins⟩ := hjoined
  rw [hjoins, htable]
  constructor
  · rintro ⟨j, hj, hname⟩
    obtain ⟨k, hk, rfl⟩ := List.mem_map.1 hj
    have hmem : dim k ∈ d.model.dimensionsKeyedBy k := hdim k hk ▸ List.mem_singleton_self _
    obtain ⟨s, hs, hkey⟩ := H.exists_keyedBy_model_iff.1 ⟨dim k, hmem, hname⟩
    rw [hkeys] at hk
    exact ⟨s, k, hs, hkey, Fact.mem_keyColumns.1 hk⟩
  · rintro ⟨s, k, hs, hkey, hcolumn⟩
    have hk : k ∈ q.foreignKeys := hkeys ▸ Fact.mem_keyColumns.2 hcolumn
    obtain ⟨dim', hmem, hname⟩ := H.exists_keyedBy_model_iff.2 ⟨s, hs, hkey⟩
    rw [hdim k hk] at hmem
    obtain rfl : dim' = dim k := List.mem_singleton.1 hmem
    exact ⟨_, List.mem_map_of_mem hk, hname⟩

/-- A statement of a valid document joins the table of its fact exactly when the document declares
a dimension of that name that is keyed by a key column of the fact. Otherwise its tables are
distinct, and every qualified column consists of the name of one of them, a dot and a key column;
if there is no dot in the key column, the text cannot be read in another way. -/
theorem tables_of_valid (hv : d.Valid) :
    ∃ m, d.toModel = .ok m ∧ ∀ (o : CompileOptions), ∀ e ∈ d.facts.entries, ∀ c,
      m.compileFact o (e.2.toFact e.1) = .ok c →
      ∃ q, m.BindsTo o.plan (e.2.toFact e.1) q ∧ o.dialect.render q = .ok c.sql ∧
        ((∃ j ∈ q.joins, j.table = q.fromTable) ↔ d.JoinsItself e) ∧
        (¬d.JoinsItself e → q.tables.Nodup ∧
          ∀ r ∈ q.references, ∃ t k, r = t ++ "." ++ k ∧ k ∈ q.foreignKeys ∧
            q.tables.count t = 1 ∧
            ('.' ∉ k.toList → ∀ t' k', '.' ∉ k'.toList → r = t' ++ "." ++ k' → t' = t)) := by
  have H := valid_iff_wellFormed.1 hv
  have hbuilt : d.model.Built := .lowered H.toModel
  refine ⟨d.model, H.toModel, fun o e _ c hc => ?_⟩
  obtain ⟨q, hbinds, hrender, htable, hkeys, hroles, hjoined⟩ :=
    Model.exists_query_of_compileFact hc
  have hitself := H.joins_fromTable_iff htable hkeys hjoined
  refine ⟨q, hbinds, hrender, hitself, fun hno => ?_⟩
  have htables : q.tables.Nodup := by
    refine List.nodup_cons.2 ⟨fun hmem => hno (hitself.1 ?_),
      hjoined.nodup_tables hbuilt hroles.foreignKeys⟩
    exact List.mem_map.1 hmem
  refine ⟨htables, fun r hr => ?_⟩
  obtain ⟨t, ht, k, hk, rfl⟩ := hjoined.exists_table hr
  refine ⟨t, k, rfl, hk, List.count_eq_one_of_mem htables ht, fun hdot t' k' hdot' heq => ?_⟩
  exact (append_singleton_inj hdot' hdot heq.symm).1

/-- Orders of customers. -/
def daybookOrders : FactSpec where
  grain := ["order_id"]
  foreignKeys := ["order_id", "customer_id"]
  measures := ["amount"]

/-- A document with a dimension of the fact's own name, which is keyed by the grain of the fact. -/
def daybook : Document where
  facts := .ofList [("orders", daybookOrders)]
  dimensions := .ofList [
    ("orders", { key := some "order_id" }), ("dim_customer", { key := some "customer_id" })]

theorem daybook_tables : daybook.Valid ∧
    ∃ m q, daybook.toModel = .ok m ∧ m.BindsTo {} (daybookOrders.toFact "orders") q ∧
      (∀ j ∈ q.joins, j.table ≠ q.fromTable) ∧ q.tables.Nodup ∧
      ∀ r ∈ q.references, ∃ t k, r = t ++ "." ++ k ∧ q.tables.count t = 1 := by
  have hv : daybook.Valid := by decide +kernel
  obtain ⟨m, hm, h⟩ := tables_of_valid hv
  obtain rfl : daybook.model = m := by simpa [(valid_iff_wellFormed.1 hv).toModel] using hm
  have hno : ¬daybook.JoinsItself ("orders", daybookOrders) := by
    rintro ⟨s, k, hs, hkey, -, hgrain, -⟩
    have hfind : daybook.dimensions.find? "orders" = some { key := some "order_id" } := by
      decide +kernel
    rw [Catalog.find?_eq_some_iff.2 hs] at hfind
    cases hfind
    cases hkey
    exact hgrain List.mem_cons_self
  obtain ⟨q, hbinds, -, hitself, hdistinct⟩ := h {} ("orders", daybookOrders) (by decide +kernel)
    ⟨"orders", (daybookOrders.toFact "orders").statement {}
      fun _ => { name := "dim_customer", key := "customer_id" }⟩ (by decide +kernel)
  obtain ⟨htables, hreferences⟩ := hdistinct hno
  refine ⟨hv, daybook.model, q, hm, hbinds, fun j hj hname => hno (hitself.1 ⟨j, hj, hname⟩),
    htables, fun r hr => ?_⟩
  obtain ⟨t, k, hrt, -, hcount, -⟩ := hreferences r hr
  exact ⟨t, k, hrt, hcount⟩

/-- Sales to customers. -/
def ledgerSales : FactSpec where
  grain := ["sale_no"]
  foreignKeys := ["customer_id"]
  measures := ["amount"]

/-- A document in which the dimension of the customers has the name of the fact. -/
def ledger : Document where
  facts := .ofList [("sales", ledgerSales)]
  dimensions := .ofList [("sales", { key := some "customer_id" })]

/-- The check accepts the document, and the table of the fact is joined to itself. -/
theorem ledger_joins_own_table : ledger.Valid ∧ ("sales", ledgerSales) ∈ ledger.facts.entries ∧
    ∃ m q, ledger.toModel = .ok m ∧ m.BindsTo {} (ledgerSales.toFact "sales") q ∧
      (∃ j ∈ q.joins, j.table = q.fromTable) ∧
      m.compile {} = { compiled := [⟨"sales",
        "SELECT\n  sale_no,\n  sales.customer_id,\n  SUM(amount) AS amount\nFROM sales\n" ++
        "LEFT JOIN sales ON sales.customer_id = sales.customer_id\nGROUP BY sale_no"⟩] } := by
  have hv : ledger.Valid := by decide +kernel
  have hbinds : ledger.model.BindsTo {} (ledgerSales.toFact "sales")
      ((ledgerSales.toFact "sales").boundQuery {}
        fun _ => { name := "sales", key := "customer_id" }) :=
    Model.bindsTo_of_bound (by decide) (by decide +kernel)
  exact ⟨hv, by decide +kernel, ledger.model, _, (valid_iff_wellFormed.1 hv).toModel, hbinds,
    by decide +kernel, by decide +kernel⟩

end Document
end FactViews
