import Mathlib.Data.List.Basic
import FactViews.Query.Pipeline

/-! # Binding joins to any fact query

Binding one foreign key refuses it, skips it or gives it its one dimension
(`FactQuery.bindKey_cases`). Over a list of keys the first refused key decides
(`FactQuery.keyDimensions_eq`); when there is none, every occurrence of a key contributes its
dimension and a skipped key nothing. This holds of queries that were never promoted as well: keys
can be repeated, stand in the grain, or have been joined before. -/

namespace FactViews

/-- The left join of a table with a dimension on a key column that both have. -/
def Join.onKey (table key : String) (d : Dimension) : Join where
  table := d.name
  left := table ++ "." ++ key
  right := d.name ++ "." ++ key

namespace Model
variable {m : Model}

/-- Why a key that does not have exactly one dimension is refused. -/
def keyFault (m : Model) (key : String) : KeyFault :=
  if m.dimensionsKeyedBy key = [] then .unresolved
  else .shared ((m.dimensionsKeyedBy key).map Dimension.name)

/-- The keys of a list, each with every dimension that has it. -/
def keyMatches (m : Model) (ks : List String) : List (String × Dimension) :=
  ks.flatMap fun k => (m.dimensionsKeyedBy k).map (k, ·)

theorem mem_dimensionsKeyedBy {key : String} {d : Dimension} :
    d ∈ m.dimensionsKeyedBy key ↔ d ∈ m.dimensions.values ∧ d.key = key := by
  simp [dimensionsKeyedBy]

theorem of_dimensionsKeyedBy_eq_singleton {d : Dimension} (h : m.dimensionsKeyedBy k = [d]) :
    d ∈ m.dimensions.values ∧ d.key = k :=
  mem_dimensionsKeyedBy.1 (h ▸ List.mem_singleton_self d)

theorem keyFault_of_nil (h : m.dimensionsKeyedBy k = []) : m.keyFault k = .unresolved := if_pos h

theorem keyFault_of_shared (h : 2 ≤ (m.dimensionsKeyedBy k).length) :
    m.keyFault k = .shared ((m.dimensionsKeyedBy k).map Dimension.name) := by
  refine if_neg fun hnil => ?_
  rw [hnil] at h
  exact absurd h (by decide)

theorem keyMatches_cons (m : Model) (k : String) (ks : List String) :
    m.keyMatches (k :: ks) = (m.dimensionsKeyedBy k).map (k, ·) ++ m.keyMatches ks :=
  List.flatMap_cons ..

end Model

namespace FactQuery
variable {m : Model} {q : FactQuery}

/-- A foreign key that cannot be bound: several dimensions have it as their key, or none has and
it is not a grain column. -/
def Refuses (m : Model) (q : FactQuery) (k : String) : Prop :=
  2 ≤ (m.dimensionsKeyedBy k).length ∨ m.dimensionsKeyedBy k = [] ∧ k ∉ q.grainColumns

instance (m : Model) (q : FactQuery) (k : String) : Decidable (q.Refuses m k) :=
  inferInstanceAs (Decidable (_ ∨ _))

/-- Outside of the grain a key needs exactly one dimension. -/
theorem refuses_iff_of_notMem (hk : k ∉ q.grainColumns) :
    q.Refuses m k ↔ (m.dimensionsKeyedBy k).length ≠ 1 := by
  simp only [Refuses, hk, not_false_eq_true, and_true, ← List.length_eq_zero_iff]
  omega

theorem bindKey_cases (m : Model) (q : FactQuery) (k : String) :
    (q.Refuses m k ∧ q.bindKey m k = .error (m.keyFault k)) ∨
    (¬q.Refuses m k ∧ m.dimensionsKeyedBy k = [] ∧ q.bindKey m k = .ok .degenerate) ∨
    (¬q.Refuses m k ∧ ∃ d, m.dimensionsKeyedBy k = [d] ∧ q.bindKey m k = .ok (.dimension d)) := by
  match hdims : m.dimensionsKeyedBy k with
  | [] =>
    by_cases hk : k ∈ q.grainColumns
    · exact .inr (.inl ⟨by simp [Refuses, hdims, hk], rfl, by simp [bindKey, hdims, hk]⟩)
    · refine .inl ⟨.inr ⟨hdims, hk⟩, ?_⟩
      rw [Model.keyFault_of_nil hdims]
      simp [bindKey, hdims, hk]
  | [d] => exact .inr (.inr ⟨by simp [Refuses, hdims], d, rfl, by simp [bindKey, hdims]⟩)
  | d :: d' :: ds =>
    have htwo : 2 ≤ (m.dimensionsKeyedBy k).length := by simp [hdims]
    refine .inl ⟨.inl htwo, ?_⟩
    rw [Model.keyFault_of_shared htwo]
    simp [bindKey, hdims]

/-- The first refused key decides; without one every key comes with its dimension, if it has one. -/
theorem keyDimensions_eq (m : Model) (q : FactQuery) (ks : List String) :
    q.keyDimensions m ks =
      match ks.find? (q.Refuses m ·) with
      | some k => .error ⟨q.fromTable, k, m.keyFault k⟩
      | none => .ok (m.keyMatches ks) := by
  induction ks with
  | nil => rfl
  | cons k ks ih =>
    rw [keyDimensions, Model.keyMatches_cons, ih]
    rcases bindKey_cases m q k with ⟨hk, hbind⟩ | ⟨hk, hdims, hbind⟩ | ⟨hk, d, hdims, hbind⟩
    · rw [hbind, List.find?_cons_of_pos (by simpa using hk)]
    · rw [hbind, List.find?_cons_of_neg (by simpa using hk), hdims]
      rfl
    · rw [hbind, List.find?_cons_of_neg (by simpa using hk), hdims]
      cases ks.find? (q.Refuses m ·) with
      | some x => rfl
      | none => rfl

theorem bindJoins_of_refused (h : q.foreignKeys.find? (q.Refuses m ·) = some k) :
    q.bindJoins m = .error ⟨q.fromTable, k, m.keyFault k⟩ := by
  rw [bindJoins, keyDimensions_eq, h]

/-- A dimension is matched by its key, so the join condition and the selected column name the
foreign key on both sides. -/
theorem bindJoins_of_accepted (h : ∀ k ∈ q.foreignKeys, ¬q.Refuses m k) :
    q.bindJoins m = .ok { q with
      joins := q.foreignKeys.flatMap fun k =>
        (m.dimensionsKeyedBy k).map (.onKey q.fromTable k)
      dimensionColumns := q.foreignKeys.flatMap fun k =>
        (m.dimensionsKeyedBy k).map fun d => d.name ++ "." ++ k } := by
  have hfind : q.foreignKeys.find? (q.Refuses m ·) = none :=
    List.find?_eq_none.2 fun k hk => by simpa using h k hk
  have hkey : ∀ k, ∀ d ∈ m.dimensionsKeyedBy k, d.qualifiedKey = d.name ++ "." ++ k := by
    intro k d hd
    rw [Dimension.qualifiedKey, (Model.mem_dimensionsKeyedBy.1 hd).2]
  have hjoin : ∀ k, ∀ d ∈ m.dimensionsKeyedBy k,
      q.joinWithDimension k d = .onKey q.fromTable k d := by
    intro k d hd
    rw [joinWithDimension, hkey k d hd, Join.onKey]
  rw [bindJoins, keyDimensions_eq, hfind]
  simp only [Model.keyMatches, List.map_flatMap, List.map_map, Function.comp_def,
    List.map_congr_left (hkey _), List.map_congr_left (hjoin _)]

/-- Joins cannot be bound exactly when a foreign key is the key of several dimensions, or of none
without being a grain column; the first such key is reported, with all its dimensions. Otherwise
every occurrence of a foreign key that has a dimension contributes one left join and one column,
in order, and nothing else of the query is read or changed. -/
theorem bindJoins_outcome (m : Model) (q : FactQuery) :
    ((∃ e, (Pass.bindJoins m).run (.fact q) = .error e) ↔
      ∃ k ∈ q.foreignKeys, 2 ≤ (m.dimensionsKeyedBy k).length ∨
        m.dimensionsKeyedBy k = [] ∧ k ∉ q.grainColumns) ∧
    (∀ k, q.foreignKeys.find? (q.Refuses m ·) = some k →
      (m.dimensionsKeyedBy k = [] → (Pass.bindJoins m).run (.fact q) =
        .error (.unboundKey ⟨q.fromTable, k, .unresolved⟩)) ∧
      (2 ≤ (m.dimensionsKeyedBy k).length → (Pass.bindJoins m).run (.fact q) =
        .error (.unboundKey ⟨q.fromTable, k,
          .shared ((m.dimensionsKeyedBy k).map Dimension.name)⟩))) ∧
    ((∀ k ∈ q.foreignKeys, ¬q.Refuses m k) →
      (∀ k ∈ q.foreignKeys, m.dimensionsKeyedBy k = [] ∨ ∃ d, m.dimensionsKeyedBy k = [d]) ∧
      (Pass.bindJoins m).run (.fact q) = .ok (.fact { q with
        joins := q.foreignKeys.flatMap fun k =>
          (m.dimensionsKeyedBy k).map (.onKey q.fromTable k)
        dimensionColumns := q.foreignKeys.flatMap fun k =>
          (m.dimensionsKeyedBy k).map fun d => d.name ++ "." ++ k })) := by
  have hrefused : ∀ k, q.foreignKeys.find? (q.Refuses m ·) = some k →
      (Pass.bindJoins m).run (.fact q) = .error (.unboundKey ⟨q.fromTable, k, m.keyFault k⟩) := by
    intro k hfind
    simp only [Pass.run, bindJoins_of_refused hfind]
  refine ⟨⟨fun ⟨e, he⟩ => ?_, fun ⟨k, hk, hrefuses⟩ => ?_⟩, fun k hfind => ⟨fun hnil => ?_,
    fun htwo => ?_⟩, fun h => ⟨fun k hk => ?_, ?_⟩⟩
  · refine Decidable.byContradiction fun hno => ?_
    have haccepted : ∀ k ∈ q.foreignKeys, ¬q.Refuses m k := fun k hk hrefuses =>
      hno ⟨k, hk, hrefuses⟩
    simp only [Pass.run, bindJoins_of_accepted haccepted, reduceCtorEq] at he
  · have hsome : (q.foreignKeys.find? (q.Refuses m ·)).isSome :=
      List.find?_isSome.2 ⟨k, hk, decide_eq_true hrefuses⟩
    obtain ⟨k', hfind⟩ := Option.isSome_iff_exists.1 hsome
    exact ⟨_, hrefused k' hfind⟩
  · rw [hrefused k hfind, Model.keyFault_of_nil hnil]
  · rw [hrefused k hfind, Model.keyFault_of_shared htwo]
  · rcases bindKey_cases m q k with ⟨hrefuses, -⟩ | ⟨-, hnil, -⟩ | ⟨-, d, hone, -⟩
    · exact absurd hrefuses (h k hk)
    · exact .inl hnil
    · exact .inr ⟨d, hone⟩
  · simp only [Pass.run, bindJoins_of_accepted h]

/-- Items with a key of their own, and two places that share a key. -/
def stockModel : Model :=
  ((Model.empty.addDimension { name := "dim_item", key := "item_id" }).addDimension
    { name := "dim_depot", key := "depot_id" }).addDimension
    { name := "dim_store", key := "depot_id" }

/-- A query that was joined by hand, with an item in its grain. -/
def stockQuery (foreignKeys : List String) : FactQuery where
  fromTable := "fact_stock"
  joins := [.onKey "fact_stock" "shelf_id" { name := "dim_shelf", key := "shelf_id" }]
  groupBy := ["count_id", "item_id"]
  grainColumns := ["count_id", "item_id"]
  foreignKeys := foreignKeys
  dimensionColumns := ["counted_date"]

/-- A repeated key is joined twice although it is in the grain, a grain column without a dimension
is skipped, and of two keys that cannot be bound the first is reported. -/
theorem stockQuery_bindings :
    (∃ r, (Pass.bindJoins stockModel).run
        (.fact (stockQuery ["item_id", "count_id", "item_id"])) = .ok (.fact r) ∧
      r.joins.map Join.predicate = ["fact_stock.item_id = dim_item.item_id",
        "fact_stock.item_id = dim_item.item_id"]) ∧
    (Pass.bindJoins stockModel).run (.fact (stockQuery ["item_id", "depot_id", "shelf_id"])) =
      .error (.unboundKey ⟨"fact_stock", "depot_id", .shared ["dim_depot", "dim_store"]⟩) ∧
    (Pass.bindJoins stockModel).run (.fact (stockQuery ["shelf_id", "depot_id"])) =
      .error (.unboundKey ⟨"fact_stock", "shelf_id", .unresolved⟩) := by
  obtain ⟨-, -, hok⟩ := bindJoins_outcome stockModel (stockQuery ["item_id", "count_id", "item_id"])
  obtain ⟨-, hshared, -⟩ :=
    bindJoins_outcome stockModel (stockQuery ["item_id", "depot_id", "shelf_id"])
  obtain ⟨-, hmissing, -⟩ := bindJoins_outcome stockModel (stockQuery ["shelf_id", "depot_id"])
  have hnames : (stockModel.dimensionsKeyedBy "depot_id").map Dimension.name =
      ["dim_depot", "dim_store"] := by decide +kernel
  refine ⟨⟨_, (hok (by decide +kernel)).2, by decide +kernel⟩, ?_, ?_⟩
  · rw [← hnames]
    exact (hshared "depot_id" (by decide +kernel)).2 (by decide +kernel)
  · exact (hmissing "shelf_id" (by decide +kernel)).1 (by decide +kernel)

end FactQuery
end FactViews
