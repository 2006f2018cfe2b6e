import Mathlib.Data.List.Find
import FactViews.Proofs.BatchReport

/-! # What the outcome of a fact depends on

Of a model, compiling a fact reads the names of the dimensions that have one of its key columns as
their key, and nothing else: neither the other facts, nor the other dimensions, nor the attributes
and grains of dimensions. In another order of the dimensions the same facts compile to the same
statements, and an error differs at most in the order in which it names the dimensions that share
a key. -/

namespace FactViews
open Text

/-- Outcomes that are equal but for the order of the dimensions that an error names. -/
def Outcome.EqUpToOrder (a b : Outcome) : Prop :=
  a = b ∨ ∃ fact key ds ds', ds.Perm ds' ∧
    a = .error ⟨fact, .pass .bindJoins,
      .pipeline ⟨fact, .bindJoins, .unboundKey ⟨fact, key, .shared ds⟩⟩⟩ ∧
    b = .error ⟨fact, .pass .bindJoins,
      .pipeline ⟨fact, .bindJoins, .unboundKey ⟨fact, key, .shared ds'⟩⟩⟩

theorem Fact.statement_congr {f : Fact} {dim dim' : String → Dimension}
    (h : ∀ k ∈ f.keyColumns, (dim k).name = (dim' k).name) (o : CompileOptions) :
    f.statement o dim = f.statement o dim' := by
  have hcolumns : f.keyColumns.map (fun k => (dim k).name ++ "." ++ k) =
      f.keyColumns.map (fun k => (dim' k).name ++ "." ++ k) :=
    List.map_congr_left fun k hk => by rw [h k hk]
  have hjoins : f.keyColumns.map (fun k =>
        "\nLEFT JOIN " ++ o.dialect.quoteQualified (dim k).name ++
          " ON " ++ o.dialect.quoteQualified (f.name ++ "." ++ k) ++
          " = " ++ o.dialect.quoteQualified ((dim k).name ++ "." ++ k)) =
      f.keyColumns.map (fun k =>
        "\nLEFT JOIN " ++ o.dialect.quoteQualified (dim' k).name ++
          " ON " ++ o.dialect.quoteQualified (f.name ++ "." ++ k) ++
          " = " ++ o.dialect.quoteQualified ((dim' k).name ++ "." ++ k)) :=
    List.map_congr_left fun k hk => by rw [h k hk]
  rw [statement, statement, hcolumns, hjoins]

namespace Model
variable {m m₁ m₂ : Model} {f : Fact} {o : CompileOptions}

/-- The names of the dimensions with a key, in order. -/
def keyNames (m : Model) (key : String) : List String :=
  (m.dimensionsKeyedBy key).map Dimension.name

/-- The names and keys of the dimensions that have a key column of a fact as their key. -/
def readBy (m : Model) (f : Fact) : List (String × String) :=
  (m.dimensions.values.filter (·.key ∈ f.keyColumns)).map fun d => (d.name, d.key)

theorem length_keyNames (m : Model) (key : String) :
    (m.keyNames key).length = (m.dimensionsKeyedBy key).length := List.length_map _

theorem keyNames_eq_readBy (hk : k ∈ f.keyColumns) :
    m.keyNames k = ((m.readBy f).filter (·.2 = k)).map Prod.fst := by
  have hfilter : m.dimensionsKeyedBy k =
      (m.dimensions.values.filter (·.key ∈ f.keyColumns)).filter (·.key = k) := by
    rw [dimensionsKeyedBy, List.filter_filter]
    refine List.filter_congr fun d _ => ?_
    by_cases hd : d.key = k <;> simp [hd, hk]
  rw [keyNames, hfilter, readBy, List.filter_map, List.map_map]
  rfl

theorem keyFault_of_two (h : 2 ≤ (m.keyNames k).length) :
    m.keyFault k = .shared (m.keyNames k) := by
  rw [length_keyNames] at h
  exact keyFault_of_shared h

theorem keyFault_of_none (h : m.keyNames k = []) : m.keyFault k = .unresolved :=
  keyFault_of_nil (List.map_eq_nil_iff.1 h)

/-- Where the names of the dimensions of every key column agree up to their order, the outcomes
are the same or name the dimensions of the same shared key. -/
theorem compileFact_of_perm (o : CompileOptions)
    (h : ∀ k ∈ f.keyColumns, (m₁.keyNames k).Perm (m₂.keyNames k)) :
    m₁.compileFact o f = m₂.compileFact o f ∨
    ∃ k ∈ f.keyColumns,
      m₁.compileFact o f = .error ⟨f.name, .pass .bindJoins, .pipeline ⟨f.name, .bindJoins,
        .unboundKey ⟨f.name, k, .shared (m₁.keyNames k)⟩⟩⟩ ∧
      m₂.compileFact o f = .error ⟨f.name, .pass .bindJoins, .pipeline ⟨f.name, .bindJoins,
        .unboundKey ⟨f.name, k, .shared (m₂.keyNames k)⟩⟩⟩ := by
  have hlength : ∀ k ∈ f.keyColumns,
      (m₁.dimensionsKeyedBy k).length = (m₂.dimensionsKeyedBy k).length := by
    intro k hk
    rw [← length_keyNames, ← length_keyNames, (h k hk).length_eq]
  rcases m₁.compileFact_cases o f with
    ⟨hgrain, h₁⟩ | ⟨hgrain, k, hfind, h₁⟩ | ⟨hgrain, dim, hdim, h₁⟩
  · exact .inl (h₁.trans (compileFact_of_no_grain o hgrain).symm)
  · have hk : k ∈ f.keyColumns := List.mem_of_find?_eq_some hfind
    have hfind₂ : f.keyColumns.find? (fun k => (m₂.dimensionsKeyedBy k).length ≠ 1) = some k := by
      rw [← hfind]
      exact List.find?_congr fun c hc => by rw [hlength c hc]
    have h₂ := compileFact_of_fault o hgrain hfind₂
    cases hnames : m₁.keyNames k with
    | nil =>
      have hnames₂ : m₂.keyNames k = [] := (hnames ▸ h k hk).nil_eq.symm
      rw [keyFault_of_none hnames] at h₁
      rw [keyFault_of_none hnames₂] at h₂
      exact .inl (h₁.trans h₂.symm)
    | cons n ns =>
      have hone : (m₁.keyNames k).length ≠ 1 := by
        rw [length_keyNames]
        simpa using List.find?_some hfind
      have htwo : 2 ≤ (m₁.keyNames k).length := by
        rw [hnames, List.length_cons] at hone ⊢
        omega
      rw [keyFault_of_two htwo] at h₁
      rw [keyFault_of_two ((h k hk).length_eq ▸ htwo)] at h₂
      exact .inr ⟨k, hk, hnames ▸ h₁, h₂⟩
  · have hone : ∀ k ∈ f.keyColumns, (m₂.dimensionsKeyedBy k).length = 1 := by
      intro k hk
      rw [← hlength k hk, hdim k hk]
      rfl
    obtain ⟨dim₂, hdim₂⟩ := exists_dim_of_unique hone
    have hsame : ∀ k ∈ f.keyColumns, (dim k).name = (dim₂ k).name := by
      intro k hk
      have hperm := h k hk
      rw [keyNames, keyNames, hdim k hk, hdim₂ k hk] at hperm
      simpa using hperm
    rw [h₁, compileFact_of_bound o hgrain hdim₂, Fact.statement_congr hsame]
    exact .inl rfl

theorem compileFact_congr (o : CompileOptions)
    (h : ∀ k ∈ f.keyColumns, m₁.keyNames k = m₂.keyNames k) :
    m₁.compileFact o f = m₂.compileFact o f := by
  have hperm : ∀ k ∈ f.keyColumns, (m₁.keyNames k).Perm (m₂.keyNames k) := fun k hk =>
    .of_eq (h k hk)
  rcases compileFact_of_perm o hperm with hsame | ⟨k, hk, h₁, h₂⟩
  · exact hsame
  · rw [h₁, h₂, h k hk]

theorem keyNames_perm (h : m₁.dimensions.values.Perm m₂.dimensions.values) (key : String) :
    (m₁.keyNames key).Perm (m₂.keyNames key) :=
  (h.filter _).map _

/-- Two models that give the names of the same dimensions for every key column of a fact give the
fact the same outcome; and so do two models that differ in their facts, in the attributes and
grains of dimensions and in dimensions that have no key column of the fact as their key. The
outcome is then the same in their reports. In another order of the dimensions no outcome changes
but for the order of the dimensions that share a key. -/
theorem compileFact_isolated (m₁ m₂ : Model) (o : CompileOptions) (f : Fact) :
    ((∀ c, c ∈ f.foreignKeys ∨ c ∈ f.measures → endsIn "_id" c = true → c ∉ f.grain →
        m₁.keyNames c = m₂.keyNames c) →
      m₁.compileFact o f = m₂.compileFact o f ∧
      (m₁.Built → m₂.Built → m₁.facts.find? f.name = some f → m₂.facts.find? f.name = some f →
        (m₁.compile o).sqlFor f.name = (m₂.compile o).sqlFor f.name ∧
        (m₁.compile o).failureFor f.name = (m₂.compile o).failureFor f.name)) ∧
    (∀ facts, compileFact { m₁ with facts } o f = m₁.compileFact o f) ∧
    (m₁.readBy f = m₂.readBy f → m₁.compileFact o f = m₂.compileFact o f) ∧
    (m₁.dimensions.values.Perm m₂.dimensions.values →
      Outcome.EqUpToOrder (m₁.compileFact o f) (m₂.compileFact o f)) := by
  refine ⟨fun h => ?_, fun facts => ?_, fun h => ?_, fun h => ?_⟩
  · have hsame : m₁.compileFact o f = m₂.compileFact o f := by
      refine compileFact_congr o fun k hk => ?_
      obtain ⟨hdeclared, hgrain, hending⟩ := Fact.mem_keyColumns.1 hk
      exact h k hdeclared hending hgrain
    refine ⟨hsame, fun hm₁ hm₂ hf₁ hf₂ => ⟨?_, ?_⟩⟩
    · refine Option.ext fun sql => ?_
      rw [hm₁.sqlFor_compile, hm₂.sqlFor_compile]
      simp only [hf₁, hf₂, Option.some.injEq, exists_eq_left', hsame]
    · refine Option.ext fun e => ?_
      rw [hm₁.failureFor_compile, hm₂.failureFor_compile]
      simp only [hf₁, hf₂, Option.some.injEq, exists_eq_left', hsame]
  · exact compileFact_congr o fun k _ => rfl
  · refine compileFact_congr o fun k hk => ?_
    rw [keyNames_eq_readBy hk, keyNames_eq_readBy hk, h]
  · rcases compileFact_of_perm o fun k _ => keyNames_perm h k with hsame | ⟨k, -, h₁, h₂⟩
    · exact .inl hsame
    · exact .inr ⟨f.name, k, _, _, keyNames_perm h k, h₁, h₂⟩

/-- The dimensions of `tour` in the opposite order, without its second fact. -/
def detour : Model :=
  (((Model.empty.addDimension { name := "dim_zone", key := "area_id" }).addDimension
    { name := "dim_region", key := "area_id" }).addDimension
    { name := "dim_customer", key := "customer_id" }).addFact tourOrders

theorem tour_detour :
    tour.compileFact {} tourOrders = detour.compileFact {} tourOrders ∧
    (tour.compile {}).sqlFor "fact_orders" = (detour.compile {}).sqlFor "fact_orders" ∧
    tour.dimensions.values.Perm detour.dimensions.values ∧
    tour.compileFact {} tourAreas ≠ detour.compileFact {} tourAreas ∧
    Outcome.EqUpToOrder (tour.compileFact {} tourAreas) (detour.compileFact {} tourAreas) := by
  have htour : tour.Built :=
    .addFact _ (.addFact _ (.addDimension _ (.addDimension _ (.addDimension _ .empty))))
  have hdetour : detour.Built :=
    .addFact _ (.addDimension _ (.addDimension _ (.addDimension _ .empty)))
  have hagree : ∀ c, c ∈ tourOrders.foreignKeys ∨ c ∈ tourOrders.measures →
      endsIn "_id" c = true → c ∉ tourOrders.grain → tour.keyNames c = detour.keyNames c := by
    intro c hc _ _
    obtain rfl : c = "customer_id" := by simpa [tourOrders] using hc
    decide +kernel
  have hperm : tour.dimensions.values.Perm detour.dimensions.values := by decide +kernel
  obtain ⟨hsame, hreport⟩ := (compileFact_isolated tour detour {} tourOrders).1 hagree
  exact ⟨hsame, (hreport htour hdetour (by decide +kernel) (by decide +kernel)).1, hperm,
    by decide +kernel, (compileFact_isolated tour detour {} tourAreas).2.2.2 hperm⟩

end Model
end FactViews
