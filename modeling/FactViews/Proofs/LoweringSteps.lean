import FactViews.Model.Lowering
import FactViews.Proofs.CatalogLemmas

/-! # Lowering, one declaration after another

The declarations of a document are inserted into a model in order. Because their names are distinct,
each of them goes last, so the model of a document has one entry for every declaration
(`Document.toModel_eq_ok_iff_lowers`). The first dimension without a key ends the lowering
(`Document.toModel_eq_error_iff_keyless`). -/

namespace FactViews

namespace DimensionSpec
variable {s : DimensionSpec} {dim : Dimension}

/-- A dimension under the name of its declaration. -/
structure Lowers (e : String × DimensionSpec) (e' : String × Dimension) : Prop where
  name : e'.1 = e.1
  value : e.2.toDimension e.1 = .ok e'.2

/-- The key is missing or empty. -/
def Keyless (s : DimensionSpec) : Prop := s.key = none ∨ s.key = some ""

theorem toDimension_cases (s : DimensionSpec) (name : String) :
    (s.Keyless ∧ s.toDimension name = .error ⟨name⟩) ∨
    ∃ key, s.key = some key ∧ key ≠ "" ∧
      s.toDimension name = .ok { name, key, grain := s.grain, attributes := s.attributes } := by
  rw [Keyless, toDimension]
  cases s.key with
  | none => exact .inl ⟨.inl rfl, rfl⟩
  | some key =>
    by_cases hkey : key = ""
    · subst hkey
      exact .inl ⟨.inr rfl, rfl⟩
    · exact .inr ⟨key, rfl, hkey, if_neg hkey⟩

theorem toDimension_eq_error_iff : s.toDimension name = .error e ↔ s.Keyless ∧ e = ⟨name⟩ := by
  rcases s.toDimension_cases name with ⟨hkeyless, herror⟩ | ⟨key, hkey, hne, hok⟩
  · simp [hkeyless, herror, eq_comm]
  · simp [hok, Keyless, hkey, hne]

theorem exists_toDimension_eq_ok_iff : (∃ dim, s.toDimension name = .ok dim) ↔ ¬s.Keyless := by
  rcases s.toDimension_cases name with ⟨hkeyless, herror⟩ | ⟨key, hkey, hne, hok⟩
  · simp [hkeyless, herror]
  · simp [hok, Keyless, hkey, hne]

theorem name_of_toDimension (h : s.toDimension name = .ok dim) : dim.name = name := by
  rcases s.toDimension_cases name with ⟨-, herror⟩ | ⟨key, -, -, hok⟩
  · cases h.symm.trans herror
  · cases h.symm.trans hok
    rfl

theorem exists_of_lowers {es : List (String × DimensionSpec)} {es' : List (String × Dimension)}
    (h : List.Forall₂ Lowers es es') :
    ∀ e ∈ es', ∃ s : DimensionSpec, s.toDimension e.1 = .ok e.2 := by
  have hvalues : List.Forall₂ (fun e' e =>
      (∃ s : DimensionSpec, s.toDimension e'.1 = .ok e'.2) ∧ Lowers e e') es' es :=
    h.flip.imp fun e' e hlowers => ⟨⟨e.2, hlowers.name ▸ hlowers.value⟩, hlowers⟩
  exact ((List.forall₂_and_left _ _).1 hvalues).1

end DimensionSpec

open DimensionSpec

namespace Model
variable {m m' : Model} {es : List (String × DimensionSpec)}

theorem foldl_lowerFact (m : Model) (es : List (String × FactSpec)) :
    es.foldl lowerFact m =
      { m with facts := m.facts.insertAll (es.map fun e => (e.1, e.2.toFact e.1)) } := by
  induction es generalizing m with
  | nil => rfl
  | cons e es ih => exact ih (m.lowerFact e)

theorem lowerDimensions_eq_ok_iff :
    m.lowerDimensions es = .ok m' ↔ ∃ es', List.Forall₂ Lowers es es' ∧
      m' = { m with dimensions := m.dimensions.insertAll es' } := by
  induction es generalizing m with
  | nil => simp [lowerDimensions, Catalog.insertAll, eq_comm]
  | cons e es ih =>
    rw [lowerDimensions]
    constructor
    · intro h
      split at h
      · cases h
      · next dim hdim =>
        obtain ⟨es', hes', rfl⟩ := ih.1 h
        exact ⟨(e.1, dim) :: es', .cons ⟨rfl, hdim⟩ hes', rfl⟩
    · rintro ⟨_, hes', rfl⟩
      cases hes' with
      | @cons _ e' _ es' he hes' =>
        rw [he.value]
        refine ih.2 ⟨es', hes', ?_⟩
        rw [← he.name]
        rfl

theorem lowerDimensions_eq_error_iff :
    m.lowerDimensions es = .error err ↔ ∃ before s after, es = before ++ (err.name, s) :: after ∧
      (∀ e ∈ before, ¬e.2.Keyless) ∧ s.Keyless := by
  induction es generalizing m with
  | nil => simp [lowerDimensions]
  | cons e es ih =>
    rw [lowerDimensions]
    constructor
    · intro h
      split at h
      · next err' herr =>
        cases h
        obtain ⟨hkeyless, rfl⟩ := toDimension_eq_error_iff.1 herr
        exact ⟨[], e.2, es, rfl, nofun, hkeyless⟩
      · next dim hdim =>
        obtain ⟨before, s, after, rfl, hbefore, hs⟩ := ih.1 h
        refine ⟨e :: before, s, after, rfl, List.forall_mem_cons.2 ⟨?_, hbefore⟩, hs⟩
        exact exists_toDimension_eq_ok_iff.1 ⟨dim, hdim⟩
    · rintro ⟨before, s, after, hes, hbefore, hs⟩
      cases before with
      | nil =>
        obtain ⟨rfl, rfl⟩ := List.cons.inj hes
        rw [toDimension_eq_error_iff.2 ⟨hs, rfl⟩]
      | cons e₀ before =>
        obtain ⟨rfl, rfl⟩ := List.cons.inj hes
        obtain ⟨he, hbefore⟩ := List.forall_mem_cons.1 hbefore
        obtain ⟨dim, hdim⟩ := exists_toDimension_eq_ok_iff.2 he
        rw [hdim]
        exact ih.2 ⟨before, s, after, rfl, hbefore, hs⟩

end Model

namespace Document
variable {d : Document} {m : Model}

theorem foldl_lowerFact_empty (d : Document) :
    d.facts.entries.foldl Model.lowerFact .empty = { facts := d.facts.map FactSpec.toFact } := by
  have hfacts : (Catalog.empty : Catalog Fact).insertAll
      (d.facts.entries.map fun e => (e.1, e.2.toFact e.1)) = d.facts.map FactSpec.toFact :=
    Catalog.ofList_entries (d.facts.map FactSpec.toFact)
  rw [Model.foldl_lowerFact]
  simp only [Model.empty, hfacts]

/-- The model of a document has an entry for every declaration, in order. -/
theorem toModel_eq_ok_iff_lowers :
    d.toModel = .ok m ↔ m.facts = d.facts.map FactSpec.toFact ∧
      List.Forall₂ Lowers d.dimensions.entries m.dimensions.entries := by
  rw [toModel, foldl_lowerFact_empty, Model.lowerDimensions_eq_ok_iff]
  constructor
  · rintro ⟨es', hes', rfl⟩
    have hnames : es'.map Prod.fst = d.dimensions.names := by
      rw [Catalog.names, ← List.forall₂_eq_eq_eq, List.forall₂_map_left_iff,
        List.forall₂_map_right_iff]
      exact hes'.flip.imp fun _ _ he => he.name
    have hentries : ((Catalog.empty : Catalog Dimension).insertAll es').entries = es' := by
      refine Catalog.entries_insertAll_of_nodup ?_
      exact hnames ▸ d.dimensions.distinct
    exact ⟨rfl, hentries.symm ▸ hes'⟩
  · rintro ⟨hfacts, hdims⟩
    have hdimensions : (Catalog.empty : Catalog Dimension).insertAll m.dimensions.entries =
        m.dimensions := Catalog.ofList_entries m.dimensions
    refine ⟨m.dimensions.entries, hdims, ?_⟩
    rw [hdimensions, ← hfacts]

/-- A document has no model because of its first dimension without a key. -/
theorem toModel_eq_error_iff_keyless {e : KeylessDimension} :
    d.toModel = .error e ↔ ∃ before s after,
      d.dimensions.entries = before ++ (e.name, s) :: after ∧
        (∀ e' ∈ before, ¬e'.2.Keyless) ∧ s.Keyless :=
  Model.lowerDimensions_eq_error_iff

end Document
end FactViews
