import FactViews.Document.Violation
import FactViews.Proofs.CatalogLemmas
import FactViews.Proofs.TextLemmas

/-! # The rules of a valid document

`Document.violations` collects five lists. Each of them is empty exactly when one rule holds of
the declarations, and `Document.WellFormed` gathers the rules. A document is valid exactly when
it is well-formed (`Document.valid_iff_wellFormed`). Names are compared in lower case throughout. -/

namespace FactViews
open Text

namespace Document
variable {d : Document}

/-- The rules of a document, said of its declarations. -/
structure WellFormed (d : Document) : Prop where
  hasFacts : d.facts.entries ≠ []
  hasDimensions : d.dimensions.entries ≠ []
  grain : ∀ e ∈ d.facts.entries, e.2.grain ≠ []
  keyed : ∀ e ∈ d.dimensions.entries, ∃ key, e.2.usableKey = some key
  /-- No key is used by two dimensions. -/
  unshared : ∀ key, (keyUsers d.keyUses key).length ≤ 1
  /-- A foreign key is used by a dimension or is a grain column. -/
  resolved : ∀ e ∈ d.facts.entries, ∀ k ∈ e.2.foreignKeys,
    lowercase k ∈ d.keyUses.map Prod.fst ∨ lowercase k ∈ e.2.grain.map lowercase
  /-- A measure is neither a grain column nor a foreign key. -/
  measure : ∀ e ∈ d.facts.entries, ∀ x ∈ e.2.measures,
    lowercase x ∉ e.2.grain.map lowercase ∧ lowercase x ∉ e.2.foreignKeys.map lowercase

theorem mem_keyUses {use : String × String} :
    use ∈ d.keyUses ↔ ∃ e ∈ d.dimensions.entries, ∃ key, e.2.usableKey = some key ∧
      (lowercase key, e.1) = use := by
  simp [keyUses]

theorem keyUsers_eq_nil_iff {uses : List (String × String)} {key : String} :
    keyUsers uses key = [] ↔ key ∉ uses.map Prod.fst := by
  simp only [keyUsers, List.map_eq_nil_iff, List.filter_eq_nil_iff, decide_eq_true_eq,
    List.mem_map, not_exists, not_and]

/-- The users of a key, read off the declarations. -/
theorem keyUsers_keyUses (d : Document) (key : String) :
    keyUsers d.keyUses key =
      (d.dimensions.entries.filter (·.2.usableKey.map lowercase = some key)).map Prod.fst := by
  unfold keyUsers keyUses
  induction d.dimensions.entries with
  | nil => rfl
  | cons e es ih =>
    cases hkey : e.2.usableKey with
    | none => simpa [hkey] using ih
    | some k => by_cases hk : lowercase k = key <;> simpa [hkey, hk] using ih

theorem keyUsers_concat (uses : List (String × String)) (use : String × String) (key : String) :
    keyUsers (uses ++ [use]) key =
      if key = use.1 then keyUsers uses key ++ [use.2] else keyUsers uses key := by
  by_cases h : key = use.1
  · simp [keyUsers, h]
  · simp [keyUsers, h, Ne.symm h]

/-- Grouping uses one after another gives every key its users, the keys in the order of their
first use. -/
theorem entries_keyGroups (uses : List (String × String)) :
    (keyGroups uses).entries =
      (firstOccurrences (uses.map Prod.fst)).map fun key => (key, keyUsers uses key) := by
  induction uses using List.reverseRecOn with
  | nil => rfl
  | append_singleton uses use ih =>
    have hstep : (keyGroups (uses ++ [use])).entries =
        Catalog.place use.1 (((keyGroups uses).find? use.1).getD [] ++ [use.2])
          (keyGroups uses).entries := by
      rw [keyGroups, List.foldl_concat]
      rfl
    have hnew : ∀ key, (key, keyUsers (uses ++ [use]) key) =
        (key, if key = use.1 then keyUsers uses use.1 ++ [use.2] else keyUsers uses key) := by
      intro key
      rw [keyUsers_concat]
      split
      · next h => rw [h]
      · rfl
    rw [hstep, Catalog.find?_of_entries_eq_map ih, ih, List.map_append, firstOccurrences_append,
      List.map_append]
    simp only [hnew, mem_firstOccurrences]
    by_cases hkey : use.1 ∈ uses.map Prod.fst
    · rw [if_pos hkey, Option.getD_some,
        Catalog.place_map_of_nodup _ (nodup_firstOccurrences _) (mem_firstOccurrences.2 hkey)]
      simpa [firstOccurrences] using hkey
    · -- a key without users before; the other keys are not this one
      have hothers : ∀ key ∈ firstOccurrences (uses.map Prod.fst), key ≠ use.1 := by
        rintro key hmem rfl
        exact hkey (mem_firstOccurrences.1 hmem)
      rw [if_neg hkey, Option.getD_none, Catalog.place_of_notMem (by simpa using hkey)]
      congr 1
      · refine List.map_congr_left fun key hmem => ?_
        rw [if_neg (hothers key hmem)]
      · simp [firstOccurrences, keyUsers_eq_nil_iff.2 hkey, hkey]

theorem sharedKeyViolations_eq (d : Document) :
    d.sharedKeyViolations =
      ((firstOccurrences (d.keyUses.map Prod.fst)).filter
        fun key => (keyUsers d.keyUses key).length > 1).map
          fun key => .sharedKey key (keyUsers d.keyUses key) := by
  rw [sharedKeyViolations, entries_keyGroups, List.filter_map, List.map_map]
  rfl

theorem factViolations_eq_nil_iff :
    d.factViolations = [] ↔ d.facts.entries ≠ [] ∧ ∀ e ∈ d.facts.entries, e.2.grain ≠ [] := by
  simp [factViolations, Catalog.isEmpty, List.filter_eq_nil_iff]

theorem dimensionViolations_eq_nil_iff :
    d.dimensionViolations = [] ↔ d.dimensions.entries ≠ [] ∧
      ∀ e ∈ d.dimensions.entries, ∃ key, e.2.usableKey = some key := by
  simp [dimensionViolations, Catalog.isEmpty, List.filter_eq_nil_iff, Option.ne_none_iff_exists']

theorem sharedKeyViolations_eq_nil_iff :
    d.sharedKeyViolations = [] ↔ ∀ key, (keyUsers d.keyUses key).length ≤ 1 := by
  simp only [sharedKeyViolations_eq, List.map_eq_nil_iff, List.filter_eq_nil_iff,
    mem_firstOccurrences, decide_eq_true_eq, Nat.not_lt]
  refine ⟨fun h key => ?_, fun h key _ => h key⟩
  by_cases hkey : key ∈ d.keyUses.map Prod.fst
  · exact h key hkey
  · simp [keyUsers_eq_nil_iff.2 hkey]

theorem foreignKeyViolation?_eq_none_iff {uses : List (String × String)} :
    foreignKeyViolation? uses grain fact k = none ↔
      (keyUsers uses (lowercase k) = [] ∧ lowercase k ∈ grain) ∨
        (keyUsers uses (lowercase k)).length = 1 := by
  unfold foreignKeyViolation?
  simp only
  split
  · simp_all
  · simp_all
  · simp_all [List.length_eq_one_iff]

theorem measureViolation?_eq_none_iff :
    measureViolation? grain foreignKeys fact x = none ↔
      lowercase x ∉ grain ∧ lowercase x ∉ foreignKeys := by
  unfold measureViolation?
  simp only
  split
  · simp_all
  · split <;> simp_all

theorem foreignKeyViolations_eq_nil_iff :
    d.foreignKeyViolations = [] ↔ ∀ e ∈ d.facts.entries, ∀ k ∈ e.2.foreignKeys,
      (keyUsers d.keyUses (lowercase k) = [] ∧ lowercase k ∈ e.2.grain.map lowercase) ∨
        (keyUsers d.keyUses (lowercase k)).length = 1 := by
  simp only [foreignKeyViolations, List.flatMap_eq_nil_iff, List.filterMap_eq_nil_iff,
    foreignKeyViolation?_eq_none_iff]

theorem measureViolations_eq_nil_iff :
    d.measureViolations = [] ↔ ∀ e ∈ d.facts.entries, ∀ x ∈ e.2.measures,
      lowercase x ∉ e.2.grain.map lowercase ∧ lowercase x ∉ e.2.foreignKeys.map lowercase := by
  simp only [measureViolations, List.flatMap_eq_nil_iff, List.filterMap_eq_nil_iff,
    measureViolation?_eq_none_iff]

theorem valid_iff_wellFormed : d.Valid ↔ d.WellFormed := by
  simp only [Valid, violations, List.append_eq_nil_iff, factViolations_eq_nil_iff,
    dimensionViolations_eq_nil_iff, sharedKeyViolations_eq_nil_iff,
    foreignKeyViolations_eq_nil_iff, measureViolations_eq_nil_iff]
  constructor
  · rintro ⟨⟨⟨⟨⟨hfacts, hgrain⟩, hdims, hkeyed⟩, hshared⟩, hkeys⟩, hmeasures⟩
    refine ⟨hfacts, hdims, hgrain, hkeyed, hshared, fun e he k hk => ?_, hmeasures⟩
    rcases hkeys e he k hk with ⟨-, hmem⟩ | hone
    · exact .inr hmem
    · refine .inl (Decidable.not_not.1 fun hno => ?_)
      simp [keyUsers_eq_nil_iff.2 hno] at hone
  · intro H
    refine ⟨⟨⟨⟨⟨H.hasFacts, H.grain⟩, H.hasDimensions, H.keyed⟩, H.unshared⟩, fun e he k hk => ?_⟩,
      H.measure⟩
    by_cases hused : keyUsers d.keyUses (lowercase k) = []
    · exact .inl ⟨hused, (H.resolved e he k hk).resolve_left (keyUsers_eq_nil_iff.1 hused)⟩
    · have hpos := List.length_pos_iff.2 hused
      have hle := H.unshared (lowercase k)
      exact .inr (by omega)

end Document
end FactViews
