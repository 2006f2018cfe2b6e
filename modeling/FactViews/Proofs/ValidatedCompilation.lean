import FactViews.Proofs.Compilation
import FactViews.Proofs.LoweringSteps
import FactViews.Proofs.Validity

/-! # Compiling valid documents

A valid document always has a model, and in it no key belongs to two dimensions. Facts can fail
nevertheless: the check goes by declared roles and ignores letter case, whereas compilation goes
by the endings of names and compares keys exactly. What is left after the check is a key column
without a dimension (`WellFormed.compileFact_cases`), and a fact compiles exactly when its key
columns are written as dimension keys (`BindsExactly`). For the same reason a fact that compiles
need not select its columns in their declared roles: foreign keys and measures are joined or
aggregated as they are named (`FactSpec.joinedColumns`, `FactSpec.aggregatedColumns`). -/

namespace FactViews
open Text

namespace Document
variable {d : Document}

/-! ## The model of a document with keys -/

/-- The model of a document whose dimensions all have keys. -/
def model (d : Document) : Model where
  facts := d.facts.map FactSpec.toFact
  dimensions := d.dimensions.map fun name s =>
    { name, key := s.usableKey.getD "", grain := s.grain, attributes := s.attributes }

theorem WellFormed.toModel (H : d.WellFormed) : d.toModel = .ok d.model := by
  rw [toModel_eq_ok_iff_lowers]
  refine ⟨rfl, List.forall₂_map_right_iff.2 (List.forall₂_same.2 fun e he => ⟨rfl, ?_⟩)⟩
  obtain ⟨key, hkey⟩ := H.keyed e he
  obtain ⟨hdeclared, hne⟩ := Option.filter_eq_some_iff.1 hkey
  simp only [DimensionSpec.toDimension, hdeclared, hkey, Option.getD_some]
  exact if_neg (of_decide_eq_true hne)

theorem mem_facts_model {f : Fact} :
    f ∈ d.model.facts.values ↔ ∃ e ∈ d.facts.entries, e.2.toFact e.1 = f := by
  simp [model, Catalog.values, Catalog.map]

theorem WellFormed.key_eq (H : d.WellFormed) {e : String × DimensionSpec}
    (he : e ∈ d.dimensions.entries) : e.2.key = some (e.2.usableKey.getD "") := by
  obtain ⟨k, hk⟩ := H.keyed e he
  rw [hk]
  exact (Option.filter_eq_some_iff.1 hk).1

/-- The names of the dimensions with a key, read off the declarations. -/
theorem WellFormed.exists_keyedBy_model_iff (H : d.WellFormed) {key name : String} :
    (∃ dim ∈ d.model.dimensionsKeyedBy key, dim.name = name) ↔
      ∃ s, (name, s) ∈ d.dimensions.entries ∧ s.key = some key := by
  simp only [Model.mem_dimensionsKeyedBy, model, Catalog.values, Catalog.map, List.map_map,
    List.mem_map]
  constructor
  · rintro ⟨_, ⟨⟨e, he, rfl⟩, rfl⟩, rfl⟩
    exact ⟨e.2, he, H.key_eq he⟩
  · rintro ⟨s, hs, hkey⟩
    refine ⟨_, ⟨⟨(name, s), hs, rfl⟩, ?_⟩, rfl⟩
    exact Option.some.inj ((H.key_eq hs).symm.trans hkey)

theorem WellFormed.dimensionsKeyedBy_model_eq_nil_iff (H : d.WellFormed) {key : String} :
    d.model.dimensionsKeyedBy key = [] ↔ ∀ e ∈ d.dimensions.entries, e.2.key ≠ some key := by
  rw [List.eq_nil_iff_forall_not_mem]
  constructor
  · intro h e he hkey
    obtain ⟨dim, hdim, -⟩ := H.exists_keyedBy_model_iff.2 ⟨e.2, he, hkey⟩
    exact h dim hdim
  · intro h dim hdim
    obtain ⟨s, hs, hkey⟩ := H.exists_keyedBy_model_iff.1 ⟨dim, hdim, rfl⟩
    exact h _ hs hkey

theorem WellFormed.length_dimensionsKeyedBy_model (H : d.WellFormed) (key : String) :
    (d.model.dimensionsKeyedBy key).length ≤ 1 := by
  have hcount : (d.model.dimensionsKeyedBy key).length =
      d.dimensions.entries.countP fun e => e.2.usableKey.getD "" = key := by
    simp [Model.dimensionsKeyedBy, model, Catalog.values, Catalog.map,
      ← List.countP_eq_length_filter, List.countP_map, Function.comp_def]
  calc (d.model.dimensionsKeyedBy key).length
    _ = d.dimensions.entries.countP fun e => e.2.usableKey.getD "" = key := hcount
    _ ≤ d.dimensions.entries.countP fun e =>
          e.2.usableKey.map lowercase = some (lowercase key) := by
      refine List.countP_mono_left fun e he hkey => ?_
      obtain ⟨k, hk⟩ := H.keyed e he
      simp_all
    _ = (keyUsers d.keyUses (lowercase key)).length := by
      rw [keyUsers_keyUses, List.length_map, List.countP_eq_length_filter]
    _ ≤ 1 := H.unshared (lowercase key)

/-! ## Outcomes -/

/-- Every column of a fact that is named like a foreign key is a grain column of it or exactly the
key of a dimension. -/
def BindsExactly (d : Document) (s : FactSpec) : Prop :=
  ∀ c ∈ s.foreignKeys ++ s.measures, endsIn "_id" c = true →
    c ∈ s.grain ∨ ∃ e ∈ d.dimensions.entries, e.2.key = some c

instance (d : Document) (s : FactSpec) : Decidable (d.BindsExactly s) :=
  inferInstanceAs (Decidable (∀ c ∈ s.foreignKeys ++ s.measures, endsIn "_id" c = true →
    c ∈ s.grain ∨ ∃ e ∈ d.dimensions.entries, e.2.key = some c))

variable {e : String × FactSpec}

/-- A fact of a valid document compiles, or one of its key columns is not the key of any
dimension. -/
theorem WellFormed.compileFact_cases (H : d.WellFormed) (he : e ∈ d.facts.entries)
    (o : CompileOptions) :
    (∃ c ∈ (e.2.toFact e.1).keyColumns, (∀ x ∈ d.dimensions.entries, x.2.key ≠ some c) ∧
      d.model.compileFact o (e.2.toFact e.1) =
        .error ⟨e.1, .pass .bindJoins,
          .pipeline ⟨e.1, .bindJoins, .unboundKey ⟨e.1, c, .unresolved⟩⟩⟩) ∨
    (∃ dim : String → Dimension,
      (∀ k ∈ (e.2.toFact e.1).keyColumns, d.model.dimensionsKeyedBy k = [dim k]) ∧
      d.model.compileFact o (e.2.toFact e.1) = .ok ⟨e.1, (e.2.toFact e.1).statement o dim⟩) := by
  rcases d.model.compileFact_cases o (e.2.toFact e.1) with
    ⟨hnil, -⟩ | ⟨-, c, hfind, herror⟩ | ⟨-, dim, hdim, hok⟩
  · exact (H.grain e he hnil).elim
  · -- the check leaves no key with two dimensions, so this one has none
    have hne : (d.model.dimensionsKeyedBy c).length ≠ 1 := by simpa using List.find?_some hfind
    have hle := H.length_dimensionsKeyedBy_model c
    have hnil : d.model.dimensionsKeyedBy c = [] := List.length_eq_zero_iff.1 (by omega)
    have hkeys := H.dimensionsKeyedBy_model_eq_nil_iff.1 hnil
    refine .inl ⟨c, List.mem_of_find?_eq_some hfind, hkeys, ?_⟩
    rw [herror, Model.keyFault, if_pos hnil]
    rfl
  · exact .inr ⟨dim, hdim, hok⟩

/-- A foreign key that is neither a grain column nor a dimension key differs from one of them in
letter case. -/
theorem WellFormed.exists_variant (H : d.WellFormed) (he : e ∈ d.facts.entries)
    (hc : c ∈ e.2.foreignKeys) (hgrain : c ∉ e.2.grain)
    (hkeys : ∀ x ∈ d.dimensions.entries, x.2.key ≠ some c) :
    ∃ k, k ≠ c ∧ lowercase k = lowercase c ∧
      (k ∈ e.2.grain ∨ ∃ x ∈ d.dimensions.entries, x.2.key = some k) := by
  rcases H.resolved e he c hc with hused | hcolumn
  · obtain ⟨use, huse, hlower⟩ := List.mem_map.1 hused
    obtain ⟨x, hx, k, hk, rfl⟩ := mem_keyUses.1 huse
    have hkey : x.2.key = some k := (Option.filter_eq_some_iff.1 hk).1
    exact ⟨k, fun hkc => hkeys x hx (hkc ▸ hkey), hlower, .inr ⟨x, hx, hkey⟩⟩
  · obtain ⟨g, hg, hlower⟩ := List.mem_map.1 hcolumn
    exact ⟨g, fun hgc => hgrain (hgc ▸ hg), hlower, .inl hg⟩

theorem WellFormed.compileFact_ok_iff (H : d.WellFormed) (he : e ∈ d.facts.entries)
    (o : CompileOptions) :
    (∃ c, d.model.compileFact o (e.2.toFact e.1) = .ok c) ↔ d.BindsExactly e.2 := by
  rcases H.compileFact_cases he o with ⟨c, hc, hkeys, herror⟩ | ⟨dim, hdim, hok⟩
  · refine ⟨fun ⟨_, hok⟩ => ?_, fun hexact => ?_⟩
    · rw [herror] at hok
      cases hok
    · obtain ⟨hdeclared, hgrain, hending⟩ := Fact.mem_keyColumns.1 hc
      rcases hexact c (List.mem_append.2 hdeclared) hending with hmem | ⟨x, hx, hkey⟩
      · exact (hgrain hmem).elim
      · exact (hkeys x hx hkey).elim
  · refine ⟨fun _ c hc hending => ?_, fun _ => ⟨_, hok⟩⟩
    by_cases hgrain : c ∈ e.2.grain
    · exact .inl hgrain
    · have hone := hdim c (Fact.mem_keyColumns.2 ⟨List.mem_append.1 hc, hgrain, hending⟩)
      refine .inr (Classical.byContradiction fun hno => ?_)
      have hnil := H.dimensionsKeyedBy_model_eq_nil_iff.2 fun x hx hkey => hno ⟨x, hx, hkey⟩
      simp [hone] at hnil

/-- A valid document has a model. A fact of it compiles, in every dialect and with every plan,
exactly when its columns that are named like foreign keys are written as dimension keys or grain
columns. -/
theorem compile_isSuccess_iff_of_valid (hv : d.Valid) :
    ∃ m, d.toModel = .ok m ∧ ∀ o : CompileOptions,
      (∀ e ∈ d.facts.entries,
        (∃ c, m.compileFact o (e.2.toFact e.1) = .ok c) ↔ d.BindsExactly e.2) ∧
      ((m.compile o).isSuccess = true ↔ ∀ e ∈ d.facts.entries, d.BindsExactly e.2) := by
  have H := valid_iff_wellFormed.1 hv
  refine ⟨d.model, H.toModel, fun o => ?_⟩
  have hfact := fun e he => H.compileFact_ok_iff (e := e) he o
  refine ⟨hfact, Model.isSuccess_compile_iff.trans ⟨fun h e he => ?_, fun h f hf => ?_⟩⟩
  · exact (hfact e he).1 (h _ (mem_facts_model.2 ⟨e, he, rfl⟩))
  · obtain ⟨e, he, rfl⟩ := mem_facts_model.1 hf
    exact (hfact e he).2 (h e he)

/-- Orders of a customer, and shipments whose store is a grain column only. -/
def retail : Document where
  facts := .ofList [
    ("fact_orders",
      { grain := ["order_id"], foreignKeys := ["customer_id"], measures := ["amount"] }),
    ("fact_shipments",
      { grain := ["shipment_id", "store_id"], foreignKeys := ["store_id"], measures := ["units"] })]
  dimensions := .ofList [("dim_customer", { key := some "customer_id" })]

theorem retail_compiles : retail.Valid ∧
    ∃ m, retail.toModel = .ok m ∧ ∀ o : CompileOptions, (m.compile o).isSuccess = true := by
  have hv : retail.Valid := by decide +kernel
  obtain ⟨m, hm, h⟩ := compile_isSuccess_iff_of_valid hv
  exact ⟨hv, m, hm, fun o => (h o).2.2 (by decide +kernel)⟩

/-- A measure that is named like a foreign key, and a foreign key in another letter case than the
key it means. -/
def clashing : Document where
  facts := .ofList [
    ("fact_entries", { grain := ["entry_no"], measures := ["badge_id"] }),
    ("fact_orders",
      { grain := ["order_no"], foreignKeys := ["Customer_id"], measures := ["amount"] })]
  dimensions := .ofList [("dim_customer", { key := some "customer_id" })]

theorem clashing_wellFormed : clashing.WellFormed := valid_iff_wellFormed.1 (by decide +kernel)

/-- A valid document need not compile. -/
theorem clashing_does_not_compile : clashing.Valid ∧
    ∃ m, clashing.toModel = .ok m ∧
      (m.compile {}).failures.map FactFailure.fact = ["fact_entries", "fact_orders"] :=
  ⟨valid_iff_wellFormed.2 clashing_wellFormed, clashing.model, clashing_wellFormed.toModel,
    by decide +kernel⟩

/-- The failures that a valid document can have. The column is a measure that is named like a
foreign key, or a foreign key that is written unlike the dimension key or grain column for which
the check accepted it. -/
theorem failures_of_valid (hv : d.Valid) :
    ∃ m, d.toModel = .ok m ∧ ∀ o, ∀ failure ∈ (m.compile o).failures,
      ∃ s c, (failure.fact, s) ∈ d.facts.entries ∧
        failure.stage.name = "bind_dimension_joins" ∧
        failure.cause = .pipeline ⟨failure.fact, .bindJoins,
          .unboundKey ⟨failure.fact, c, .unresolved⟩⟩ ∧
        endsIn "_id" c = true ∧ c ∉ s.grain ∧
        (∀ e ∈ d.dimensions.entries, e.2.key ≠ some c) ∧
        (c ∈ s.measures ∨ c ∈ s.foreignKeys ∧ ∃ k, k ≠ c ∧ lowercase k = lowercase c ∧
          (k ∈ s.grain ∨ ∃ e ∈ d.dimensions.entries, e.2.key = some k)) := by
  have H := valid_iff_wellFormed.1 hv
  refine ⟨d.model, H.toModel, fun o failure hfailure => ?_⟩
  obtain ⟨f, hf, herror⟩ := Model.mem_failures_compile.1 hfailure
  obtain ⟨e, he, rfl⟩ := mem_facts_model.1 hf
  rcases H.compileFact_cases he o with ⟨c, hc, hkeys, herror'⟩ | ⟨dim, hdim, hok⟩
  · rw [herror] at herror'
    cases herror'
    obtain ⟨hdeclared, hgrain, hending⟩ := Fact.mem_keyColumns.1 hc
    refine ⟨e.2, c, he, rfl, rfl, hending, hgrain, hkeys, ?_⟩
    rcases hdeclared with hkey | hmeasure
    · exact .inr ⟨hkey, H.exists_variant he hkey hgrain hkeys⟩
    · exact .inl hmeasure
  · rw [herror] at hok
    cases hok

theorem clashing_failures : clashing.Valid ∧
    ∃ m, clashing.toModel = .ok m ∧ (m.compile {}).failures.length = 2 ∧
      ∀ failure ∈ (m.compile {}).failures, failure.stage.name = "bind_dimension_joins" := by
  have hv : clashing.Valid := valid_iff_wellFormed.2 clashing_wellFormed
  obtain ⟨m, hm, h⟩ := failures_of_valid hv
  obtain rfl : clashing.model = m := by simpa [clashing_wellFormed.toModel] using hm
  refine ⟨hv, clashing.model, hm, by decide +kernel, fun failure hfailure => ?_⟩
  obtain ⟨_, _, _, hstage, _⟩ := h {} failure hfailure
  exact hstage

end Document

/-! ## Selected columns -/

namespace FactSpec
variable {s : FactSpec}

/-- The declared foreign keys outside the grain, then the declared measures, each once. -/
def outerColumns (s : FactSpec) : List String :=
  (firstOccurrences s.foreignKeys).filter (!s.grain.contains ·) ++ firstOccurrences s.measures

/-- The outer columns that are named like foreign keys. -/
def joinedColumns (s : FactSpec) : List String := s.outerColumns.filter (endsIn "_id")

/-- The outer columns that are named neither like foreign keys nor like dates. -/
def aggregatedColumns (s : FactSpec) : List String :=
  s.outerColumns.filter fun c => !endsIn "_id" c && !endsIn "_date" c

/-- The names of the columns agree with their declared roles. -/
structure Conventional (s : FactSpec) : Prop where
  foreignKey : ∀ k ∈ s.foreignKeys, k ∉ s.grain → endsIn "_id" k = true
  measure : ∀ x ∈ s.measures, endsIn "_id" x = false ∧ endsIn "_date" x = false

theorem Conventional.of_mem_outerKeys (h : s.Conventional)
    (hk : k ∈ (firstOccurrences s.foreignKeys).filter (!s.grain.contains ·)) :
    endsIn "_id" k = true := by
  obtain ⟨hdeclared, hgrain⟩ := List.mem_filter.1 hk
  exact h.foreignKey k (mem_firstOccurrences.1 hdeclared) (by simpa using hgrain)

theorem Conventional.joinedColumns_eq (h : s.Conventional) :
    s.joinedColumns = (firstOccurrences s.foreignKeys).filter (!s.grain.contains ·) := by
  have hmeasures : (firstOccurrences s.measures).filter (endsIn "_id") = [] := by
    refine List.filter_eq_nil_iff.2 fun x hx => ?_
    simp [(h.measure x (mem_firstOccurrences.1 hx)).1]
  rw [joinedColumns, outerColumns, List.filter_append, hmeasures, List.append_nil]
  exact List.filter_eq_self.2 fun k hk => h.of_mem_outerKeys hk

theorem Conventional.aggregatedColumns_eq (h : s.Conventional) :
    s.aggregatedColumns = firstOccurrences s.measures := by
  rw [aggregatedColumns, outerColumns, List.filter_append,
    List.filter_eq_nil_iff.2 fun k hk => by simp [h.of_mem_outerKeys hk], List.nil_append]
  refine List.filter_eq_self.2 fun x hx => ?_
  simp [h.measure x (mem_firstOccurrences.1 hx)]

end FactSpec

namespace Document
variable {d : Document} {e : String × FactSpec}

/-- In a valid document a measure is no foreign key and no grain column, so no column is declared
in two roles and the order of declaration is kept role by role. -/
theorem WellFormed.openColumns_toFact (H : d.WellFormed) (he : e ∈ d.facts.entries) :
    (e.2.toFact e.1).openColumns = e.2.outerColumns := by
  have hkeys : ∀ x ∈ e.2.measures, x ∉ e.2.foreignKeys := fun x hx hk =>
    (H.measure e he x hx).2 (List.mem_map_of_mem hk)
  have hgrain : ∀ x ∈ e.2.measures, x ∉ e.2.grain := fun x hx hg =>
    (H.measure e he x hx).1 (List.mem_map_of_mem hg)
  simp only [Fact.openColumns, FactSpec.toFact, FactSpec.outerColumns,
    firstOccurrences_append_of_disjoint hkeys, List.filter_append]
  congr 1
  refine List.filter_eq_self.2 fun x hx => ?_
  simpa using hgrain x (mem_firstOccurrences.1 hx)

/-- What a fact of a valid document selects when it compiles: its grain and the keys of the
dimensions of its joined columns, each text once, then its aggregated columns. There is one left
join for each joined column. Where names agree with declared roles, the joined columns are the
foreign keys outside the grain and the aggregated columns are the measures. -/
theorem selection_of_valid {m : Model} (hv : d.Valid) (hm : d.toModel = .ok m)
    (he : e ∈ d.facts.entries) {o : CompileOptions} {c : CompiledFact}
    (hc : m.compileFact o (e.2.toFact e.1) = .ok c) :
    ∃ (q : FactQuery) (dim : String → Dimension),
      m.BindsTo o.plan (e.2.toFact e.1) q ∧ o.dialect.render q = .ok c.sql ∧
      (∀ k ∈ e.2.joinedColumns, m.dimensionsKeyedBy k = [dim k]) ∧
      q.plainColumns = firstOccurrences
        (e.2.grain ++ e.2.joinedColumns.map fun k => (dim k).name ++ "." ++ k) ∧
      q.aggregatedColumns = e.2.aggregatedColumns.map (fun x => (x, o.plan.operatorFor x)) ∧
      q.joins = e.2.joinedColumns.map (fun k => .onKey e.1 k (dim k)) ∧
      (e.2.Conventional →
        e.2.joinedColumns =
          (firstOccurrences e.2.foreignKeys).filter (!e.2.grain.contains ·) ∧
        e.2.aggregatedColumns = firstOccurrences e.2.measures) := by
  have H := valid_iff_wellFormed.1 hv
  rw [H.toModel] at hm
  cases hm
  have hkeys : (e.2.toFact e.1).keyColumns = e.2.joinedColumns := by
    rw [Fact.keyColumns, H.openColumns_toFact he, FactSpec.joinedColumns]
  have hmeasures : (e.2.toFact e.1).measureColumns = e.2.aggregatedColumns := by
    rw [Fact.measureColumns, H.openColumns_toFact he, FactSpec.aggregatedColumns]
  have hgrain : (e.2.toFact e.1).grain ≠ [] := H.grain e he
  rcases H.compileFact_cases he o with ⟨_, _, _, herror⟩ | ⟨dim, hdim, hok⟩
  · rw [herror] at hc
    cases hc
  · rw [hok] at hc
    cases hc
    refine ⟨(e.2.toFact e.1).boundQuery o.plan dim, dim, Model.bindsTo_of_bound hgrain hdim,
      Fact.render_boundQuery hgrain o, hkeys ▸ hdim, ?_, ?_, ?_,
      fun h => ⟨h.joinedColumns_eq, h.aggregatedColumns_eq⟩⟩
    · rw [← hkeys]
      rfl
    · rw [Fact.aggregatedColumns_boundQuery, hmeasures]
    · rw [← hkeys]
      rfl

/-- A fact with a foreign key that is not named like one, and a measure that is named like a
date. -/
def salesFact : FactSpec where
  grain := ["sale_id"]
  foreignKeys := ["customer_id", "region"]
  measures := ["sale_date", "amount"]

/-- The document of `salesFact`, in which both foreign keys are dimension keys. -/
def sales : Document where
  facts := .ofList [("fact_sales", salesFact)]
  dimensions := .ofList [
    ("dim_customer", { key := some "customer_id" }), ("dim_region", { key := some "region" })]

theorem sales_wellFormed : sales.WellFormed := valid_iff_wellFormed.1 (by decide +kernel)

theorem sales_selection : sales.Valid ∧
    ∃ m c, sales.toModel = .ok m ∧ m.compileFact {} (salesFact.toFact "fact_sales") = .ok c ∧
      ∃ q, m.BindsTo {} (salesFact.toFact "fact_sales") q ∧
        q.joins.map Join.left = ["fact_sales.customer_id"] ∧
        q.aggregatedColumns = [("region", .sum), ("amount", .sum)] := by
  have hv : sales.Valid := valid_iff_wellFormed.2 sales_wellFormed
  have hm := sales_wellFormed.toModel
  have he : ("fact_sales", salesFact) ∈ sales.facts.entries := by decide +kernel
  obtain ⟨c, hc⟩ : ∃ c, sales.model.compileFact {} (salesFact.toFact "fact_sales") = .ok c :=
    ⟨⟨"fact_sales", (salesFact.toFact "fact_sales").statement {}
      fun _ => { name := "dim_customer", key := "customer_id" }⟩, by decide +kernel⟩
  obtain ⟨q, dim, hq, -, -, -, hmeasures, hjoins, -⟩ := selection_of_valid hv hm he hc
  have hkeys : salesFact.joinedColumns = ["customer_id"] := by decide +kernel
  refine ⟨hv, sales.model, c, hm, hc, q, hq, ?_, ?_⟩
  · simp [hjoins, hkeys, Join.onKey]
  · rw [hmeasures]
    decide +kernel

/-- The foreign key `region` is aggregated and not joined, and the measure `sale_date` is not
selected: declared roles are not what decides. -/
theorem sales_columns_change_role : sales.Valid ∧
    ∃ m, sales.toModel = .ok m ∧
      m.compile {} = { compiled := [⟨"fact_sales",
        "SELECT\n  sale_id,\n  dim_customer.customer_id,\n  SUM(region) AS region,\n" ++
        "  SUM(amount) AS amount\nFROM fact_sales\n" ++
        "LEFT JOIN dim_customer ON fact_sales.customer_id = dim_customer.customer_id\n" ++
        "GROUP BY sale_id"⟩] } :=
  ⟨valid_iff_wellFormed.2 sales_wellFormed, sales.model, sales_wellFormed.toModel,
    by decide +kernel⟩

end Document
end FactViews
