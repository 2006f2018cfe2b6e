import FactViews.Model
import FactViews.Proofs.CatalogLemmas

/-! # Models that are built one addition at a time

A catalog `Keeps` the values that were added to it under names of their own: its names stand in the
order in which they first came, and under each of them stands the value that came last. One more
insertion keeps this (`Catalog.Keeps.insert`), so it holds of the facts and of the dimensions of a
model after any sequence of additions (`Model.keeps_ofAdditions`). Which dimensions have a key is
then decided by the last dimension of every name, and a dimension that was replaced has no say. -/

namespace FactViews
open Text

namespace Catalog
variable {key : α → String} {added : List α} {c : Catalog α}

/-- A catalog holds the last value that was added under each name. -/
structure Keeps (c : Catalog α) (key : α → String) (added : List α) : Prop where
  distinct : c.names.Nodup
  /-- Every value stands under its own name. -/
  named : ∀ e ∈ c.entries, key e.2 = e.1
  /-- The names stand in the order in which they first came. -/
  order : c.names = firstOccurrences (added.map key)
  /-- Every entry is the last value that was added under its name. -/
  last : ∀ e ∈ c.entries, latest? key added e.1 = some e.2
  /-- A name is found if a value was added under it, and then the last one is. -/
  found : ∀ name, c.find? name = latest? key added name

theorem of_latest?_eq_some (h : latest? key added name = some a) : a ∈ added ∧ key a = name := by
  have hmem := List.mem_of_getLast? h
  rw [List.mem_filter, decide_eq_true_eq] at hmem
  exact hmem

/-- The order of the names and the values that are found decide the rest. -/
theorem Keeps.of_find? (horder : c.names = firstOccurrences (added.map key))
    (hfound : ∀ name, c.find? name = latest? key added name) : c.Keeps key added := by
  have hlast : ∀ e ∈ c.entries, latest? key added e.1 = some e.2 := by
    intro e he
    rw [← hfound, find?_eq_some_iff]
    exact he
  exact {
    distinct := c.distinct
    named := fun e he => (of_latest?_eq_some (hlast e he)).2
    order := horder
    last := hlast
    found := hfound }

theorem keeps_empty (key : α → String) : (empty : Catalog α).Keeps key [] :=
  .of_find? rfl fun _ => rfl

theorem Keeps.insert (h : c.Keeps key added) (a : α) :
    (c.insert (key a) a).Keeps key (added ++ [a]) := by
  refine .of_find? ?_ fun name => ?_
  · rw [names_insert, h.order, List.map_append, List.map_singleton, firstOccurrences_concat]
    simp only [mem_firstOccurrences]
  · rw [find?_insert, h.found, latest?_concat]

theorem Keeps.mem_values_iff (h : c.Keeps key added) :
    a ∈ c.values ↔ latest? key added (key a) = some a := by
  rw [← h.found, find?_eq_some_iff_of_named h.named]
  exact (and_iff_left rfl).symm

/-- The values are those that were added last, in the order of their names. -/
theorem Keeps.values_eq (h : c.Keeps key added) :
    c.values = (firstOccurrences (added.map key)).filterMap (latest? key added) := by
  rw [← h.order, names, List.filterMap_map, values, ← List.filterMap_eq_map]
  exact List.filterMap_congr fun e he => (h.last e he).symm

end Catalog

/-- A fact or a dimension that is added to a model. -/
inductive Addition where
  | fact (f : Fact)
  | dimension (d : Dimension)
deriving DecidableEq, Repr

namespace Addition

/-- The fact that is added. -/
def fact? : Addition → Option Fact
  | .fact f => some f
  | .dimension _ => none

/-- The dimension that is added. -/
def dimension? : Addition → Option Dimension
  | .fact _ => none
  | .dimension d => some d

end Addition

namespace Model
open Catalog

/-- Adds a fact or a dimension. -/
def add (m : Model) : Addition → Model
  | .fact f => m.addFact f
  | .dimension d => m.addDimension d

/-- The model that additions make of the empty one, one after another. -/
def ofAdditions (as : List Addition) : Model := as.foldl add .empty

/-- What the facts and the dimensions of a model keep of the additions. -/
def Keeps (m : Model) (as : List Addition) : Prop :=
  m.facts.Keeps Fact.name (as.filterMap Addition.fact?) ∧
    m.dimensions.Keeps Dimension.name (as.filterMap Addition.dimension?)

theorem Keeps.add {m : Model} (h : m.Keeps as) (a : Addition) : (m.add a).Keeps (as ++ [a]) := by
  obtain ⟨hfacts, hdims⟩ := h
  rw [Keeps, List.filterMap_append, List.filterMap_append]
  cases a with
  | fact f => exact ⟨hfacts.insert f, (List.append_nil _).symm ▸ hdims⟩
  | dimension d => exact ⟨(List.append_nil _).symm ▸ hfacts, hdims.insert d⟩

theorem keeps_ofAdditions (as : List Addition) : (ofAdditions as).Keeps as := by
  induction as using List.reverseRecOn with
  | nil => exact ⟨keeps_empty _, keeps_empty _⟩
  | append_singleton as a ih =>
    rw [ofAdditions, List.foldl_append]
    exact ih.add a

/-- The dimensions with a key are those among the last ones of their names that have it. -/
theorem Keeps.mem_dimensionsKeyedBy {m : Model} (h : m.Keeps as) :
    d ∈ m.dimensionsKeyedBy k ↔
      latest? Dimension.name (as.filterMap Addition.dimension?) d.name = some d ∧ d.key = k := by
  rw [dimensionsKeyedBy, List.mem_filter, decide_eq_true_eq, h.2.mem_values_iff]

/-- After any additions, the facts and the dimensions of a model are the last ones of their names,
in the order in which the names first came. The dimensions with a key are read off them: each
once, in that order, and none that was replaced. -/
theorem ofAdditions_keeps_latest (as : List Addition) :
    (ofAdditions as).facts.Keeps Fact.name (as.filterMap Addition.fact?) ∧
    (ofAdditions as).dimensions.Keeps Dimension.name (as.filterMap Addition.dimension?) ∧
    (∀ k, (ofAdditions as).dimensionsKeyedBy k =
      ((firstOccurrences ((as.filterMap Addition.dimension?).map Dimension.name)).filterMap
        (latest? Dimension.name (as.filterMap Addition.dimension?))).filter (·.key = k)) ∧
    (∀ k d, d ∈ (ofAdditions as).dimensionsKeyedBy k ↔
      latest? Dimension.name (as.filterMap Addition.dimension?) d.name = some d ∧ d.key = k) ∧
    (∀ k, (((ofAdditions as).dimensionsKeyedBy k).map Dimension.name).Nodup) ∧
    ∀ k d d', d' ∈ (ofAdditions (as ++ [.dimension d])).dimensionsKeyedBy k ∧ d'.name = d.name ↔
      d' = d ∧ d.key = k := by
  obtain ⟨hfacts, hdims⟩ := keeps_ofAdditions as
  refine ⟨hfacts, hdims, fun k => ?_, fun k d => (keeps_ofAdditions as).mem_dimensionsKeyedBy,
    fun k => ?_, fun k d d' => ?_⟩
  · rw [dimensionsKeyedBy, hdims.values_eq]
  · have hdistinct : ((ofAdditions as).dimensions.values.map Dimension.name).Nodup :=
      map_key_values_of_named hdims.named ▸ hdims.distinct
    exact hdistinct.sublist (List.filter_sublist.map _)
  · have hdimensions : (as ++ [Addition.dimension d]).filterMap Addition.dimension? =
        as.filterMap Addition.dimension? ++ [d] := List.filterMap_append
    rw [(keeps_ofAdditions _).mem_dimensionsKeyedBy, hdimensions, latest?_concat]
    constructor
    · rintro ⟨⟨hlatest, hkey⟩, hname⟩
      rw [if_pos hname, Option.some.injEq] at hlatest
      exact ⟨hlatest.symm, hlatest ▸ hkey⟩
    · rintro ⟨rfl, hkey⟩
      exact ⟨⟨if_pos rfl, hkey⟩, rfl⟩

/-- A region that is added again under another key keeps its place before the area. -/
example : ((ofAdditions [.dimension { name := "dim_region", key := "region_id" },
    .dimension { name := "dim_area", key := "area_id" },
    .dimension { name := "dim_region", key := "area_id" }]).dimensionsKeyedBy "area_id").map
      Dimension.name = ["dim_region", "dim_area"] := by decide +kernel

end Model
end FactViews
