import FactViews.Proofs.Validity

/-! # What the check reports

Every rule of a document is about one site of it: the facts, one fact, a key, an occurrence of a
foreign key. `Document.Breaks` states the rules site by site, and the violations are what is broken
at each site, in the order of the sites (`violations_exact`).

A key that several dimensions use is reported twice: once for the key, which is found by grouping
the dimensions, and once for every foreign key that is written like it, which is found by a search.
Both name the same dimensions (`sharedKey_iff_ambiguous`). -/

namespace FactViews
open Text

/-! ## Lists -/

theorem map_filter_eq_filterMap (p : α → Bool) (g : α → β) (l : List α) :
    (l.filter p).map g = l.filterMap fun a => if p a then some (g a) else none := by
  rw [← List.filterMap_eq_map', List.filterMap_filter]

theorem filterMap_of_others_none [DecidableEq α] {f : α → Option β} {l : List α}
    (h : ∀ b ∈ l, b ≠ a → f b = none) (ha : f a = some v) :
    l.filterMap f = List.replicate (l.count a) v := by
  have hfilter : l.filterMap f = (l.filter (· = a)).filterMap f := by
    rw [List.filterMap_filter]
    refine List.filterMap_congr fun b hb => ?_
    by_cases hba : b = a
    · simp [hba]
    · simp [hba, h b hb hba]
  rw [hfilter, List.filter_eq, List.filterMap_replicate_of_some ha]

theorem flatMap_of_others_nil {f : α → List β} {l : List α} (hl : l.Nodup) (ha : a ∈ l)
    (h : ∀ b ∈ l, b ≠ a → f b = []) : l.flatMap f = f a := by
  obtain ⟨before, after, rfl⟩ := List.append_of_mem ha
  obtain ⟨-, hafter, hdisjoint⟩ := List.nodup_append.1 hl
  have hbefore : before.flatMap f = [] := List.flatMap_eq_nil_iff.2 fun b hb =>
    h b (List.mem_append_left _ hb) (hdisjoint b hb a List.mem_cons_self)
  have hrest : after.flatMap f = [] := List.flatMap_eq_nil_iff.2 fun b hb =>
    h b (by simp [hb]) (ne_of_mem_of_not_mem hb (List.nodup_cons.1 hafter).1)
  simp [hbefore, hrest]

/-! ## Users of keys -/

/-- A dimension uses a key, which is given in lower case. No dimension uses the empty key. -/
def DimensionSpec.Uses (s : DimensionSpec) (key : String) : Prop :=
  ∃ k, s.key = some k ∧ k ≠ "" ∧ lowercase k = key

theorem DimensionSpec.usableKey_eq_some_iff {s : DimensionSpec} :
    s.usableKey = some k ↔ s.key = some k ∧ k ≠ "" := by
  simp [usableKey, Option.filter_eq_some_iff]

theorem DimensionSpec.usableKey_eq_none_iff {s : DimensionSpec} :
    s.usableKey = none ↔ ∀ key, s.key = some key → key = "" := by
  simp [usableKey, Option.filter_eq_none_iff]

theorem DimensionSpec.uses_iff {s : DimensionSpec} {key : String} :
    s.Uses key ↔ s.usableKey.map lowercase = some key := by
  simp only [Uses, Option.map_eq_some_iff, usableKey_eq_some_iff, and_assoc]

instance (s : DimensionSpec) (key : String) : Decidable (s.Uses key) :=
  decidable_of_iff _ DimensionSpec.uses_iff.symm

namespace Document
variable {d : Document}

/-- The names of the dimensions that use a key, in the order of declaration. -/
def usersOf (d : Document) (key : String) : List String :=
  (d.dimensions.entries.filter (·.2.Uses key)).map Prod.fst

/-- The position of the first dimension that uses a key. -/
def firstUse (d : Document) (key : String) : Nat :=
  d.dimensions.entries.findIdx (·.2.Uses key)

theorem keyUsers_eq_usersOf (d : Document) (key : String) :
    keyUsers d.keyUses key = d.usersOf key := by
  simp only [keyUsers_keyUses, usersOf, DimensionSpec.uses_iff]

/-- The keys in use, in the order of their first use. -/
def usedKeys (d : Document) : List String := (keyGroups d.keyUses).names

theorem usedKeys_eq (d : Document) : d.usedKeys = firstOccurrences (d.keyUses.map Prod.fst) := by
  rw [usedKeys, Catalog.names, entries_keyGroups, List.map_map]
  exact List.map_id _

theorem usersOf_ne_nil_iff {key : String} :
    d.usersOf key ≠ [] ↔ key ∈ d.keyUses.map Prod.fst := by
  rw [← keyUsers_eq_usersOf, Ne, keyUsers_eq_nil_iff, not_not]

theorem mem_usedKeys : key ∈ d.usedKeys ↔ d.usersOf key ≠ [] := by
  rw [usedKeys_eq, mem_firstOccurrences, usersOf_ne_nil_iff]

theorem map_fst_keyUses (d : Document) :
    d.keyUses.map Prod.fst = d.dimensions.entries.filterMap (·.2.usableKey.map lowercase) := by
  rw [keyUses, List.map_filterMap]
  simp only [Option.map_map, Function.comp_def]

theorem pairwise_usedKeys (d : Document) :
    d.usedKeys.Pairwise fun a b => d.firstUse a < d.firstUse b := by
  simp only [usedKeys_eq, map_fst_keyUses, firstUse, DimensionSpec.uses_iff]
  exact pairwise_findIdx_filterMap _ d.dimensions.entries

/-! ## Rules by site -/

/-- What a rule is about. -/
inductive Site where
  | facts
  | fact (e : String × FactSpec)
  | dimensions
  | dimension (e : String × DimensionSpec)
  /-- A key that dimensions use, in lower case. -/
  | key (key : String)
  /-- An occurrence of a foreign key of a fact. -/
  | foreignKey (e : String × FactSpec) (k : String)
  /-- An occurrence of a measure of a fact. -/
  | measure (e : String × FactSpec) (x : String)

/-- The sites of a document, given the keys in use. -/
def sites (d : Document) (keys : List String) : List Site :=
  .facts :: d.facts.entries.map .fact ++
    .dimensions :: d.dimensions.entries.map .dimension ++
    keys.map .key ++
    d.facts.entries.flatMap (fun e => e.2.foreignKeys.map (.foreignKey e)) ++
    d.facts.entries.flatMap (fun e => e.2.measures.map (.measure e))

/-- The rules: what is broken at a site. -/
inductive Breaks (d : Document) : Site → Violation → Prop where
  | noFacts : d.facts.entries = [] → Breaks d .facts .noFacts
  | missingGrain {e} : e.2.grain = [] → Breaks d (.fact e) (.missingGrain e.1)
  | noDimensions : d.dimensions.entries = [] → Breaks d .dimensions .noDimensions
  | missingKey {e} : (∀ key, e.2.key = some key → key = "") →
    Breaks d (.dimension e) (.missingKey e.1)
  | sharedKey {key} : 2 ≤ (d.usersOf key).length →
    Breaks d (.key key) (.sharedKey key (d.usersOf key))
  | unresolved {e k} : d.usersOf (lowercase k) = [] → lowercase k ∉ e.2.grain.map lowercase →
    Breaks d (.foreignKey e k) (.unresolvedForeignKey e.1 k)
  | ambiguous {e k} : 2 ≤ (d.usersOf (lowercase k)).length →
    Breaks d (.foreignKey e k) (.ambiguousForeignKey e.1 k (d.usersOf (lowercase k)))
  | grainMeasure {e x} : lowercase x ∈ e.2.grain.map lowercase →
    Breaks d (.measure e x) (.measureRoleConflict e.1 x .grainColumn)
  | keyMeasure {e x} : lowercase x ∉ e.2.grain.map lowercase →
    lowercase x ∈ e.2.foreignKeys.map lowercase →
    Breaks d (.measure e x) (.measureRoleConflict e.1 x .foreignKey)

/-- What the check says about a site. -/
def verdict? (d : Document) : Site → Option Violation
  | .facts => if d.facts.isEmpty then some .noFacts else none
  | .fact e => if e.2.grain.isEmpty then some (.missingGrain e.1) else none
  | .dimensions => if d.dimensions.isEmpty then some .noDimensions else none
  | .dimension e => if e.2.usableKey.isNone then some (.missingKey e.1) else none
  | .key key =>
    if (keyUsers d.keyUses key).length > 1 then some (.sharedKey key (keyUsers d.keyUses key))
    else none
  | .foreignKey e k => foreignKeyViolation? d.keyUses (e.2.grain.map lowercase) e.1 k
  | .measure e x =>
    measureViolation? (e.2.grain.map lowercase) (e.2.foreignKeys.map lowercase) e.1 x

/-- The check goes through the sites in order. -/
theorem violations_eq_filterMap (d : Document) :
    d.violations = (d.sites d.usedKeys).filterMap d.verdict? := by
  have hfacts : d.factViolations =
      (Site.facts :: d.facts.entries.map .fact).filterMap d.verdict? := by
    rw [factViolations, map_filter_eq_filterMap, List.filterMap_cons, List.filterMap_map]
    simp only [verdict?, Function.comp_def]
    split <;> rfl
  have hdimensions : d.dimensionViolations =
      (Site.dimensions :: d.dimensions.entries.map .dimension).filterMap d.verdict? := by
    rw [dimensionViolations, map_filter_eq_filterMap, List.filterMap_cons, List.filterMap_map]
    simp only [verdict?, Function.comp_def]
    split <;> rfl
  have hshared : d.sharedKeyViolations = (d.usedKeys.map Site.key).filterMap d.verdict? := by
    rw [sharedKeyViolations_eq, usedKeys_eq, map_filter_eq_filterMap, List.filterMap_map]
    simp only [verdict?, Function.comp_def, decide_eq_true_eq]
  have hforeignKeys : d.foreignKeyViolations =
      (d.facts.entries.flatMap fun e => e.2.foreignKeys.map (Site.foreignKey e)).filterMap
        d.verdict? := by
    simp only [foreignKeyViolations, List.filterMap_flatMap, List.filterMap_map]
    rfl
  have hmeasures : d.measureViolations =
      (d.facts.entries.flatMap fun e => e.2.measures.map (Site.measure e)).filterMap
        d.verdict? := by
    simp only [measureViolations, List.filterMap_flatMap, List.filterMap_map]
    rfl
  simp only [violations, sites, List.filterMap_append, hfacts, hdimensions, hshared, hforeignKeys,
    hmeasures]

theorem foreignKey_verdict?_eq_some_iff {e : String × FactSpec} {k : String} {v : Violation} :
    d.verdict? (.foreignKey e k) = some v ↔ d.Breaks (.foreignKey e k) v := by
  rw [verdict?, foreignKeyViolation?, keyUsers_eq_usersOf]
  constructor
  · intro h
    split at h
    · next hnone =>
      split at h
      · cases h
      · next hgrain =>
        cases h
        exact .unresolved hnone (by simpa using hgrain)
    · cases h
    · next names hnil hone =>
      cases h
      have htwo : 2 ≤ (d.usersOf (lowercase k)).length := by
        cases husers : d.usersOf (lowercase k) with
        | nil => exact (hnil husers).elim
        | cons name rest =>
          cases rest with
          | nil => exact (hone name husers).elim
          | cons => simp
      exact .ambiguous htwo
  · intro h
    cases h with
    | unresolved hnone hgrain =>
      simp only [hnone, List.contains_iff_mem]
      rw [if_neg hgrain]
    | ambiguous htwo =>
      split
      · next hnone => simp [hnone] at htwo
      · next hone => simp [hone] at htwo
      · rfl

theorem measure_verdict?_eq_some_iff {e : String × FactSpec} {x : String} {v : Violation} :
    d.verdict? (.measure e x) = some v ↔ d.Breaks (.measure e x) v := by
  rw [verdict?, measureViolation?]
  simp only [List.contains_iff_mem]
  constructor
  · intro h
    split at h
    · next hgrain =>
      cases h
      exact .grainMeasure hgrain
    · next hgrain =>
      split at h
      · next hkey =>
        cases h
        exact .keyMeasure hgrain hkey
      · cases h
  · intro h
    cases h with
    | grainMeasure hgrain => rw [if_pos hgrain]
    | keyMeasure hgrain hkey => rw [if_neg hgrain, if_pos hkey]

/-- A site with one rule. -/
theorem ite_eq_some_iff_breaks {p : Prop} [Decidable p] {site : Site} {v v' : Violation}
    (hsound : p → d.Breaks site v) (hcomplete : ∀ w, d.Breaks site w → p ∧ v = w) :
    (if p then some v else none) = some v' ↔ d.Breaks site v' := by
  rw [Option.ite_none_right_eq_some, Option.some.injEq]
  constructor
  · rintro ⟨h, rfl⟩
    exact hsound h
  · exact hcomplete v'

/-- The check finds at a site exactly what is broken there. -/
theorem verdict?_eq_some_iff {site : Site} {v : Violation} :
    d.verdict? site = some v ↔ d.Breaks site v := by
  cases site with
  | facts =>
    refine ite_eq_some_iff_breaks (fun h => .noFacts (List.isEmpty_iff.1 h)) ?_
    intro w hw
    cases hw with
    | noFacts h => exact ⟨List.isEmpty_iff.2 h, rfl⟩
  | fact e =>
    refine ite_eq_some_iff_breaks (fun h => .missingGrain (List.isEmpty_iff.1 h)) ?_
    intro w hw
    cases hw with
    | missingGrain h => exact ⟨List.isEmpty_iff.2 h, rfl⟩
  | dimensions =>
    refine ite_eq_some_iff_breaks (fun h => .noDimensions (List.isEmpty_iff.1 h)) ?_
    intro w hw
    cases hw with
    | noDimensions h => exact ⟨List.isEmpty_iff.2 h, rfl⟩
  | dimension e =>
    have hkey := Option.isNone_iff_eq_none.trans e.2.usableKey_eq_none_iff
    refine ite_eq_some_iff_breaks (fun h => .missingKey (hkey.1 h)) ?_
    intro w hw
    cases hw with
    | missingKey h => exact ⟨hkey.2 h, rfl⟩
  | key key =>
    rw [verdict?, keyUsers_eq_usersOf]
    refine ite_eq_some_iff_breaks (fun h => .sharedKey h) ?_
    intro w hw
    cases hw with
    | sharedKey h => exact ⟨h, rfl⟩
  | foreignKey e k => exact foreignKey_verdict?_eq_some_iff
  | measure e x => exact measure_verdict?_eq_some_iff

/-- The violations of a document. They are what is broken at its sites, in order and once for every
site, where the keys in use stand in the order of their first use. -/
theorem violations_exact (d : Document) :
    (∃ (keys : List String) (verdict? : Site → Option Violation),
      (∀ key, key ∈ keys ↔ d.usersOf key ≠ []) ∧
      keys.Pairwise (fun a b => d.firstUse a < d.firstUse b) ∧
      (∀ site v, verdict? site = some v ↔ d.Breaks site v) ∧
      d.violations = (d.sites keys).filterMap verdict?) ∧
    (d.Valid ↔ d.facts.entries ≠ [] ∧ d.dimensions.entries ≠ [] ∧
      (∀ e ∈ d.facts.entries, e.2.grain ≠ []) ∧
      (∀ e ∈ d.dimensions.entries, ∃ key, e.2.key = some key ∧ key ≠ "") ∧
      (∀ key, (d.usersOf key).length ≤ 1) ∧
      (∀ e ∈ d.facts.entries, ∀ k ∈ e.2.foreignKeys,
        d.usersOf (lowercase k) ≠ [] ∨ lowercase k ∈ e.2.grain.map lowercase) ∧
      (∀ e ∈ d.facts.entries, ∀ x ∈ e.2.measures,
        lowercase x ∉ e.2.grain.map lowercase ∧ lowercase x ∉ e.2.foreignKeys.map lowercase)) := by
  refine ⟨⟨d.usedKeys, d.verdict?, fun _ => mem_usedKeys, d.pairwise_usedKeys,
    fun _ _ => verdict?_eq_some_iff, d.violations_eq_filterMap⟩, ?_⟩
  rw [valid_iff_wellFormed]
  constructor
  · intro H
    refine ⟨H.hasFacts, H.hasDimensions, H.grain, fun e he => ?_, fun key => ?_,
      fun e he k hk => ?_, H.measure⟩
    · obtain ⟨key, hkey⟩ := H.keyed e he
      exact ⟨key, DimensionSpec.usableKey_eq_some_iff.1 hkey⟩
    · rw [← keyUsers_eq_usersOf]
      exact H.unshared key
    · rw [usersOf_ne_nil_iff]
      exact H.resolved e he k hk
  · rintro ⟨hfacts, hdimensions, hgrain, hkeyed, hunshared, hresolved, hmeasures⟩
    refine ⟨hfacts, hdimensions, hgrain, fun e he => ?_, fun key => ?_, fun e he k hk => ?_,
      hmeasures⟩
    · obtain ⟨key, hkey⟩ := hkeyed e he
      exact ⟨key, DimensionSpec.usableKey_eq_some_iff.2 hkey⟩
    · rw [keyUsers_eq_usersOf]
      exact hunshared key
    · rw [← usersOf_ne_nil_iff]
      exact hresolved e he k hk

/-! ## The two views of a shared key -/

end Document

/-- Whether a violation is that the given key is shared. -/
def Violation.sharesKey (key : String) : Violation → Bool
  | .sharedKey k _ => k = key
  | _ => false

/-- Whether a violation is that the given foreign key of a fact is ambiguous. -/
def Violation.isAmbiguous (fact foreignKey : String) : Violation → Bool
  | .ambiguousForeignKey f k _ => f = fact && k = foreignKey
  | _ => false

namespace Document

variable {d : Document}

theorem mem_violations {v : Violation} :
    v ∈ d.violations ↔ ∃ site ∈ d.sites d.usedKeys, d.Breaks site v := by
  simp only [violations_eq_filterMap, List.mem_filterMap, verdict?_eq_some_iff]

theorem filterMap_sites_of_key {f : Site → Option β}
    (h : ∀ site, (∀ key, site ≠ .key key) → f site = none) (keys : List String) :
    (d.sites keys).filterMap f = keys.filterMap fun key => f (.key key) := by
  simp [sites, List.filterMap_flatMap, List.filterMap_map, h]

theorem filterMap_sites_of_foreignKey {f : Site → Option β}
    (h : ∀ site, (∀ e k, site ≠ .foreignKey e k) → f site = none) (keys : List String) :
    (d.sites keys).filterMap f =
      d.facts.entries.flatMap fun e => e.2.foreignKeys.filterMap fun k => f (.foreignKey e k) := by
  simp [sites, List.filterMap_flatMap, List.filterMap_map, h]

/-- A site without a violation of some kind. -/
theorem filter_verdict?_eq_none {p : Violation → Bool} {site : Site}
    (h : ∀ v, d.Breaks site v → p v = false) : (d.verdict? site).filter p = none := by
  refine Option.filter_eq_none_iff.2 fun v hv => ?_
  rw [h v (verdict?_eq_some_iff.1 hv)]
  exact Bool.false_ne_true

theorem filter_verdict?_eq_some {p : Violation → Bool} {site : Site} (h : d.Breaks site v)
    (hp : p v = true) : (d.verdict? site).filter p = some v :=
  Option.filter_eq_some_iff.2 ⟨verdict?_eq_some_iff.2 h, hp⟩

theorem filter_sharesKey_violations (h : 2 ≤ (d.usersOf key).length) :
    d.violations.filter (Violation.sharesKey key) = [.sharedKey key (d.usersOf key)] := by
  -- only sites of keys count, of these only that of the given key, and it is visited once
  have hkeys : ∀ site, (∀ k, site ≠ .key k) →
      (d.verdict? site).filter (Violation.sharesKey key) = none := by
    intro site hsite
    refine filter_verdict?_eq_none fun v hv => ?_
    cases hv with
    | sharedKey => exact (hsite _ rfl).elim
    | _ => rfl
  have hothers : ∀ k ∈ d.usedKeys, k ≠ key →
      (d.verdict? (.key k)).filter (Violation.sharesKey key) = none := by
    intro k _ hk
    refine filter_verdict?_eq_none fun v hv => ?_
    cases hv with
    | sharedKey => simpa [Violation.sharesKey] using hk
  have hkey : (d.verdict? (.key key)).filter (Violation.sharesKey key) =
      some (.sharedKey key (d.usersOf key)) :=
    filter_verdict?_eq_some (.sharedKey h) (decide_eq_true rfl)
  have hused : key ∈ d.usedKeys := mem_usedKeys.2 fun hnil => by simp [hnil] at h
  have hnodup : d.usedKeys.Nodup := (keyGroups d.keyUses).distinct
  rw [violations_eq_filterMap, List.filter_filterMap, filterMap_sites_of_key hkeys,
    filterMap_of_others_none hothers hkey, List.count_eq_one_of_mem hnodup hused]
  rfl

theorem filter_isAmbiguous_violations {e : String × FactSpec} (he : e ∈ d.facts.entries)
    (h : 2 ≤ (d.usersOf (lowercase k)).length) :
    d.violations.filter (Violation.isAmbiguous e.1 k) =
      List.replicate (e.2.foreignKeys.count k)
        (.ambiguousForeignKey e.1 k (d.usersOf (lowercase k))) := by
  -- only the occurrences of the key in the fact count; other facts have other names
  have hkeys : ∀ site, (∀ e' k', site ≠ .foreignKey e' k') →
      (d.verdict? site).filter (Violation.isAmbiguous e.1 k) = none := by
    intro site hsite
    refine filter_verdict?_eq_none fun v hv => ?_
    cases hv with
    | ambiguous => exact (hsite _ _ rfl).elim
    | _ => rfl
  have hsites : ∀ e' k', e'.1 ≠ e.1 ∨ k' ≠ k →
      (d.verdict? (.foreignKey e' k')).filter (Violation.isAmbiguous e.1 k) = none := by
    intro e' k' hne
    refine filter_verdict?_eq_none fun v hv => ?_
    cases hv with
    | unresolved => rfl
    | ambiguous => rcases hne with hfact | hkey <;> simp [Violation.isAmbiguous, *]
  have hfacts : ∀ e' ∈ d.facts.entries, e' ≠ e →
      (e'.2.foreignKeys.filterMap fun k' =>
        (d.verdict? (.foreignKey e' k')).filter (Violation.isAmbiguous e.1 k)) = [] := by
    intro e' he' hne
    have hname : e'.1 ≠ e.1 := fun heq =>
      hne (List.inj_on_of_nodup_map d.facts.distinct he' he heq)
    exact List.filterMap_eq_nil_iff.2 fun k' _ => hsites e' k' (.inl hname)
  have hkey : (d.verdict? (.foreignKey e k)).filter (Violation.isAmbiguous e.1 k) =
      some (.ambiguousForeignKey e.1 k (d.usersOf (lowercase k))) :=
    filter_verdict?_eq_some (.ambiguous h) (by simp [Violation.isAmbiguous])
  rw [violations_eq_filterMap, List.filter_filterMap, filterMap_sites_of_foreignKey hkeys,
    flatMap_of_others_nil d.facts.distinct.of_map he hfacts,
    filterMap_of_others_none (fun k' _ hne => hsites e k' (.inr hne)) hkey]

/-- The two views of a shared key. The dimensions that an ambiguous foreign key is reported with
are those of the one report on its key, and every occurrence of a foreign key that is written like
a shared key is reported with the dimensions that share it. -/
theorem sharedKey_iff_ambiguous (d : Document) :
    (∀ fact foreignKey dimensions,
      .ambiguousForeignKey fact foreignKey dimensions ∈ d.violations →
      d.violations.filter (Violation.sharesKey (lowercase foreignKey)) =
        [.sharedKey (lowercase foreignKey) dimensions]) ∧
    (∀ key dimensions, .sharedKey key dimensions ∈ d.violations →
      ∀ e ∈ d.facts.entries, ∀ foreignKey, lowercase foreignKey = key →
        d.violations.filter (Violation.isAmbiguous e.1 foreignKey) =
          List.replicate (e.2.foreignKeys.count foreignKey)
            (.ambiguousForeignKey e.1 foreignKey dimensions)) := by
  constructor
  · intro fact foreignKey dimensions h
    obtain ⟨site, -, hbreaks⟩ := mem_violations.1 h
    cases hbreaks with
    | ambiguous htwo => exact filter_sharesKey_violations htwo
  · intro key dimensions h e he foreignKey hkey
    obtain ⟨site, -, hbreaks⟩ := mem_violations.1 h
    cases hbreaks with
    | sharedKey htwo =>
      subst hkey
      exact filter_isAmbiguous_violations he htwo

/-- Two dimensions share a key but for letter case, and a fact refers to it three times, also as
one of its grain columns. -/
def branches : Document where
  facts := .ofList [
    ("fact_visits", {
      grain := ["branch_id"]
      foreignKeys := ["Branch_Id", "area_id", "BRANCH_ID", "Branch_Id"] }),
    ("fact_sales", { grain := ["sale_id"], foreignKeys := ["branch_id"] })]
  dimensions := .ofList [
    ("dim_branch", { key := some "branch_ID" }), ("dim_area", { key := some "area_id" }),
    ("dim_shop", { key := some "Branch_id" })]

theorem branches_shared_and_ambiguous :
    .ambiguousForeignKey "fact_visits" "BRANCH_ID" ["dim_branch", "dim_shop"] ∈
        branches.violations ∧
      branches.violations.filter (Violation.sharesKey "branch_id") =
        [.sharedKey "branch_id" ["dim_branch", "dim_shop"]] ∧
      branches.violations.filter (Violation.isAmbiguous "fact_visits" "Branch_Id") =
        List.replicate 2
          (.ambiguousForeignKey "fact_visits" "Branch_Id" ["dim_branch", "dim_shop"]) := by
  obtain ⟨hshared, hambiguous⟩ := sharedKey_iff_ambiguous branches
  have hmem : .ambiguousForeignKey "fact_visits" "BRANCH_ID" ["dim_branch", "dim_shop"] ∈
      branches.violations := by decide +kernel
  have hlower : lowercase "BRANCH_ID" = "branch_id" := by decide +kernel
  have hone := hshared _ _ _ hmem
  rw [hlower] at hone
  have hkey : .sharedKey "branch_id" ["dim_branch", "dim_shop"] ∈ branches.violations :=
    List.mem_of_mem_filter (hone ▸ List.mem_singleton_self _)
  have htwice := hambiguous _ _ hkey _ (List.mem_of_mem_head? rfl) "Branch_Id" (by decide +kernel)
  exact ⟨hmem, hone, htwice⟩

end Document
end FactViews
