import Mathlib.Data.List.Forall2
import FactViews.Proofs.BatchReport
import FactViews.Proofs.ViolationReport

/-! # Documents and their models

A model keeps all that its document declares, so the document can be read off it again
(`Model.toDocument`). The models of documents are those whose entries stand under their own names
and whose keys are not empty (`Document.toModel_eq_ok_iff`). The lowering tests keys by itself; that
it refuses a document exactly when the check finds a dimension without a key, and names the first
one that the check finds, is `Document.toModel_eq_error_iff_head?`. -/

namespace FactViews

/-! ## Dimensions without a key -/

/-- The dimension that is reported without a key. -/
def Violation.keyless? : Violation → Option String
  | .missingKey dimension => some dimension
  | _ => none

/-- The check and the lowering agree on which keys count. -/
theorem DimensionSpec.usableKey_eq_none_iff_keyless {s : DimensionSpec} :
    s.usableKey = none ↔ s.Keyless := by
  rw [usableKey_eq_none_iff, Keyless]
  cases s.key with
  | none => simp
  | some key => simp

namespace Document
variable {d : Document}

theorem filterMap_sites_of_dimension {f : Site → Option β}
    (h : ∀ site, (∀ e, site ≠ .dimension e) → f site = none) (keys : List String) :
    (d.sites keys).filterMap f = d.dimensions.entries.filterMap fun e => f (.dimension e) := by
  simp [sites, List.filterMap_flatMap, List.filterMap_map, h]

/-- The check reports every dimension without a key, in order. -/
theorem filterMap_keyless?_violations (d : Document) :
    d.violations.filterMap Violation.keyless? =
      (d.dimensions.entries.filter (·.2.usableKey.isNone)).map Prod.fst := by
  have hothers : ∀ site, (∀ e, site ≠ .dimension e) →
      (d.verdict? site).bind Violation.keyless? = none := by
    intro site hsite
    refine Option.bind_eq_none_iff.2 fun v hv => ?_
    cases verdict?_eq_some_iff.1 hv with
    | missingKey => exact (hsite _ rfl).elim
    | _ => rfl
  have hdimension : ∀ e, (d.verdict? (.dimension e)).bind Violation.keyless? =
      if e.2.usableKey.isNone then some e.1 else none := by
    intro e
    rw [verdict?]
    split <;> rfl
  rw [violations_eq_filterMap, List.filterMap_filterMap, filterMap_sites_of_dimension hothers,
    map_filter_eq_filterMap]
  simp only [hdimension]

/-- A document has no model because of the dimension that the check reports first. -/
theorem toModel_eq_error_iff_head? {e : KeylessDimension} :
    d.toModel = .error e ↔
      (d.violations.filterMap Violation.keyless?).head? = some e.name := by
  rw [toModel_eq_error_iff_keyless, filterMap_keyless?_violations, List.head?_map,
    List.head?_filter, Option.map_eq_some_iff]
  simp only [List.find?_eq_some_iff_append, ← DimensionSpec.usableKey_eq_none_iff_keyless,
    ← Option.isNone_iff_eq_none, Bool.not_eq_true, Bool.not_eq_true']
  constructor
  · rintro ⟨before, s, after, hentries, hbefore, hs⟩
    exact ⟨(e.name, s), ⟨hs, before, after, hentries, hbefore⟩, rfl⟩
  · rintro ⟨⟨name, s⟩, ⟨hs, before, after, hentries, hbefore⟩, rfl⟩
    exact ⟨before, s, after, hentries, hbefore, hs⟩

theorem mem_filterMap_keyless?_iff :
    name ∈ d.violations.filterMap Violation.keyless? ↔ .missingKey name ∈ d.violations := by
  rw [List.mem_filterMap]
  constructor
  · rintro ⟨v, hv, hname⟩
    cases v with
    | missingKey dimension =>
      cases hname
      exact hv
    | _ => cases hname
  · intro h
    exact ⟨_, h, rfl⟩

theorem missingKey_mem_violations_iff :
    .missingKey name ∈ d.violations ↔
      ∃ s, (name, s) ∈ d.dimensions.entries ∧ (s.key = none ∨ s.key = some "") := by
  have hkey : ∀ s : DimensionSpec, s.usableKey.isNone = true ↔ s.key = none ∨ s.key = some "" := by
    intro s
    rw [Option.isNone_iff_eq_none]
    exact DimensionSpec.usableKey_eq_none_iff_keyless
  rw [← mem_filterMap_keyless?_iff, filterMap_keyless?_violations]
  simp [hkey]

end Document

/-! ## The document of a model -/

/-- What a document says of a fact. -/
def Fact.toSpec (f : Fact) : FactSpec where
  grain := f.grain
  measures := f.measures
  foreignKeys := f.foreignKeys

/-- What a document says of a dimension. -/
def Dimension.toSpec (dim : Dimension) : DimensionSpec where
  key := some dim.key
  grain := dim.grain
  attributes := dim.attributes

/-- The document that declares the facts and dimensions of a model. -/
def Model.toDocument (m : Model) : Document where
  facts := m.facts.map fun _ f => f.toSpec
  dimensions := m.dimensions.map fun _ dim => dim.toSpec

theorem DimensionSpec.toDimension_eq_ok_iff {s : DimensionSpec} {dim : Dimension} :
    s.toDimension name = .ok dim ↔ dim.toSpec = s ∧ dim.name = name ∧ dim.key ≠ "" := by
  constructor
  · intro h
    rcases s.toDimension_cases name with ⟨-, herror⟩ | ⟨key, hkey, hne, hok⟩
    · cases h.symm.trans herror
    · cases h.symm.trans hok
      refine ⟨?_, rfl, hne⟩
      cases s
      cases hkey
      rfl
  · rintro ⟨rfl, rfl, hne⟩
    exact if_neg hne

namespace Document
variable {d : Document} {m : Model}

theorem map_toFact_eq_iff {facts : Catalog Fact} {specs : Catalog FactSpec} :
    facts = specs.map FactSpec.toFact ↔
      (facts.map fun _ f => f.toSpec) = specs ∧ ∀ e ∈ facts.entries, e.2.name = e.1 := by
  constructor
  · rintro rfl
    refine ⟨Catalog.map_map_of_forall fun _ _ => rfl, fun e he => ?_⟩
    obtain ⟨s, -, rfl⟩ := List.mem_map.1 he
    rfl
  · rintro ⟨rfl, hnames⟩
    refine (Catalog.map_map_of_forall fun e he => ?_).symm
    rw [← hnames e he]
    rfl

theorem forall₂_lowers_iff {dims : Catalog Dimension} {specs : Catalog DimensionSpec} :
    List.Forall₂ DimensionSpec.Lowers specs.entries dims.entries ↔
      (dims.map fun _ dim => dim.toSpec) = specs ∧
        ∀ e ∈ dims.entries, e.2.name = e.1 ∧ e.2.key ≠ "" := by
  constructor
  · intro h
    refine ⟨Catalog.ext ?_, fun e he => ?_⟩
    · rw [Catalog.map, ← List.forall₂_eq_eq_eq, List.forall₂_map_left_iff]
      refine h.flip.imp fun e e' hlowers => ?_
      exact Prod.ext hlowers.name (DimensionSpec.toDimension_eq_ok_iff.1 hlowers.value).1
    · obtain ⟨s, hs⟩ := DimensionSpec.exists_of_lowers h e he
      exact (DimensionSpec.toDimension_eq_ok_iff.1 hs).2
  · rintro ⟨rfl, hdims⟩
    refine List.forall₂_map_left_iff.2 (List.forall₂_same.2 fun e he => ?_)
    exact ⟨rfl, DimensionSpec.toDimension_eq_ok_iff.2 ⟨rfl, hdims e he⟩⟩

/-- A model is that of a document if it declares the same, every entry has its own name and no
key is empty. -/
theorem toModel_eq_ok_iff :
    d.toModel = .ok m ↔ m.toDocument = d ∧ (∀ e ∈ m.facts.entries, e.2.name = e.1) ∧
      ∀ e ∈ m.dimensions.entries, e.2.name = e.1 ∧ e.2.key ≠ "" := by
  rw [toModel_eq_ok_iff_lowers, map_toFact_eq_iff, forall₂_lowers_iff]
  cases d
  simp only [Model.toDocument, mk.injEq]
  tauto

/-! ## A model as a copy of its document -/

end Document

/-- A fact under the name of a declaration, with the declared columns. -/
structure FactSpec.Copied (s : String × FactSpec) (f : String × Fact) : Prop where
  key : f.1 = s.1
  name : f.2.name = f.1
  grain : f.2.grain = s.2.grain
  measures : f.2.measures = s.2.measures
  foreignKeys : f.2.foreignKeys = s.2.foreignKeys

/-- A dimension under the name of a declaration, with the declared key and columns. -/
structure DimensionSpec.Copied (s : String × DimensionSpec) (dim : String × Dimension) : Prop where
  key : dim.1 = s.1
  name : dim.2.name = dim.1
  declaredKey : s.2.key = some dim.2.key
  key_ne_empty : dim.2.key ≠ ""
  grain : dim.2.grain = s.2.grain
  attributes : dim.2.attributes = s.2.attributes

/-- A model that copies a document, entry by entry. -/
structure Document.Copied (d : Document) (m : Model) : Prop where
  factNames : m.facts.names = d.facts.names
  dimensionNames : m.dimensions.names = d.dimensions.names
  facts : List.Forall₂ FactSpec.Copied d.facts.entries m.facts.entries
  dimensions : List.Forall₂ DimensionSpec.Copied d.dimensions.entries m.dimensions.entries
  /-- Adding the facts and then the dimensions, one after another, gives the model. -/
  added : m.dimensions.values.foldl Model.addDimension
    (m.facts.values.foldl Model.addFact .empty) = m

theorem Model.foldl_addFact (m : Model) (fs : List Fact) :
    fs.foldl addFact m = { m with facts := m.facts.insertAll (fs.map fun f => (f.name, f)) } := by
  induction fs generalizing m with
  | nil => rfl
  | cons f fs ih => exact ih (m.addFact f)

theorem Model.foldl_addDimension (m : Model) (dims : List Dimension) :
    dims.foldl addDimension m =
      { m with dimensions := m.dimensions.insertAll (dims.map fun dim => (dim.name, dim)) } := by
  induction dims generalizing m with
  | nil => rfl
  | cons dim dims ih => exact ih (m.addDimension dim)

theorem Catalog.ofList_values {c : Catalog α} {key : α → String}
    (h : ∀ e ∈ c.entries, key e.2 = e.1) : ofList (c.values.map fun a => (key a, a)) = c := by
  have hentries : c.values.map (fun a => (key a, a)) = c.entries := by
    rw [values, List.map_map]
    refine (List.map_congr_left fun e he => ?_).trans (List.map_id _)
    exact Prod.ext (h e he) rfl
  rw [hentries, ofList_entries]

namespace Document
variable {d : Document} {m : Model}

theorem copied_of_toModel (h : d.toModel = .ok m) : d.Copied m := by
  obtain ⟨rfl, hfacts, hdims⟩ := toModel_eq_ok_iff.1 h
  constructor
  case factNames => exact (Catalog.map_fst_map (fun _ f => Fact.toSpec f) m.facts.entries).symm
  case dimensionNames =>
    exact (Catalog.map_fst_map (fun _ dim => Dimension.toSpec dim) m.dimensions.entries).symm
  case facts =>
    refine List.forall₂_map_left_iff.2 (List.forall₂_same.2 fun e he => ?_)
    exact ⟨rfl, hfacts e he, rfl, rfl, rfl⟩
  case dimensions =>
    refine List.forall₂_map_left_iff.2 (List.forall₂_same.2 fun e he => ?_)
    obtain ⟨hname, hkey⟩ := hdims e he
    exact ⟨rfl, hname, rfl, hkey, rfl, rfl⟩
  case added =>
    have hbuilt : m.Built := .lowered h
    have hfacts := Catalog.ofList_values hbuilt.name_eq
    have hdimensions := Catalog.ofList_values hbuilt.dimension_name_eq
    rw [Catalog.ofList] at hfacts hdimensions
    rw [Model.foldl_addFact, Model.foldl_addDimension, Model.empty]
    simp only [hfacts, hdimensions]

/-- A document has no model exactly when the check reports a dimension without a key, and then the
first one reported is named. Otherwise its model is a copy of it, from which it can be read off
again; so no other document has this model. -/
theorem toModel_lossless (d : Document) :
    (∀ e, d.toModel = .error e ↔
      (d.violations.filterMap Violation.keyless?).head? = some e.name) ∧
    ((∃ e, d.toModel = .error e) ↔ ∃ name, .missingKey name ∈ d.violations) ∧
    (∀ name, .missingKey name ∈ d.violations ↔
      ∃ s, (name, s) ∈ d.dimensions.entries ∧ (s.key = none ∨ s.key = some "")) ∧
    ((∀ name, .missingKey name ∉ d.violations) → ∃ m, d.toModel = .ok m ∧ d.Copied m ∧
      m.toDocument = d ∧ ∀ d' : Document, d'.toModel = .ok m → d' = d) := by
  have hfails : (∃ e, d.toModel = .error e) ↔ ∃ name, .missingKey name ∈ d.violations := by
    simp only [toModel_eq_error_iff_head?, ← mem_filterMap_keyless?_iff]
    cases d.violations.filterMap Violation.keyless? with
    | nil => simp
    | cons name names =>
      constructor
      · intro _
        exact ⟨name, List.mem_cons_self⟩
      · intro _
        exact ⟨⟨name⟩, rfl⟩
  refine ⟨fun e => toModel_eq_error_iff_head?, hfails, fun name => missingKey_mem_violations_iff,
    fun hkeys => ?_⟩
  cases hm : d.toModel with
  | error e =>
    obtain ⟨name, hname⟩ := hfails.1 ⟨e, hm⟩
    exact (hkeys name hname).elim
  | ok m =>
    obtain ⟨hback, -, -⟩ := toModel_eq_ok_iff.1 hm
    refine ⟨m, rfl, copied_of_toModel hm, hback, fun d' hd' => ?_⟩
    exact (toModel_eq_ok_iff.1 hd').1.symm.trans hback

/-- A document that breaks other rules: a fact without a grain, with a repeated key that no
dimension has. -/
def survey : Document where
  facts := .ofList [("fact_visits", { foreignKeys := ["area_id", "area_id"] })]
  dimensions := .ofList [
    ("dim_region", { key := some "region_id", attributes := ["name", "name"] }),
    ("dim_day", { key := some " ", grain := ["day"] })]

theorem survey_lossless :
    ¬survey.Valid ∧ (∀ name, .missingKey name ∉ survey.violations) ∧
      ∃ m, survey.toModel = .ok m ∧ survey.Copied m ∧ m.toDocument = survey := by
  have hkeyless : survey.violations.filterMap Violation.keyless? = [] := by decide +kernel
  have hkeys : ∀ name, .missingKey name ∉ survey.violations := by
    intro name
    rw [← mem_filterMap_keyless?_iff, hkeyless]
    exact List.not_mem_nil
  obtain ⟨-, -, -, hmodel⟩ := toModel_lossless survey
  obtain ⟨m, hm, hcopied, hback, -⟩ := hmodel hkeys
  exact ⟨by decide +kernel, hkeys, m, hm, hcopied, hback⟩

end Document
end FactViews
