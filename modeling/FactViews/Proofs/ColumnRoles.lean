import Mathlib.Logic.ExistsUnique
import FactViews.Query.Pipeline
import FactViews.Proofs.TextLemmas

/-! # The roles that promotion gives

A label is a grain column, a foreign key, temporal or a measure. `LabelRole.Fits` says when it is
which: the grain comes first, and endings decide about the other labels, so that one role fits and
no other one (`BaseQuery.roleOf_eq_iff`). Promotion sorts the labels by their roles and keeps their
order (`FactQuery.columnsOf_promote`). -/

namespace FactViews
open Text

/-- What a label can be. -/
inductive LabelRole where
  | grain
  | foreignKey
  | temporal
  | measure
deriving DecidableEq, Repr

/-- When a label has a role, given the columns of the grain. -/
def LabelRole.Fits (grain : List String) (l : String) : LabelRole → Prop
  | .grain => l ∈ grain
  | .foreignKey => l ∉ grain ∧ ∃ stem, l = stem ++ "_id"
  | .temporal => l ∉ grain ∧ ∃ stem, l = stem ++ "_date"
  | .measure => l ∉ grain ∧ (¬∃ stem, l = stem ++ "_id") ∧ ¬∃ stem, l = stem ++ "_date"

/-- No label is named like a foreign key and like a date: the last letters differ. -/
theorem endsIn_temporalEnding_of_foreignKeyEnding (h : endsIn foreignKeyEnding l = true) :
    endsIn temporalEnding l = false := by
  refine Bool.eq_false_iff.2 fun htemporal => ?_
  obtain ⟨stem, rfl⟩ := endsIn_iff.1 h
  obtain ⟨stem', hstem⟩ := endsIn_iff.1 htemporal
  have hlast := congrArg (fun s => s.toList.getLast?) hstem
  simp [foreignKeyEnding, temporalEnding] at hlast

namespace BaseQuery
variable {b : BaseQuery} {l : String} {role : LabelRole}

/-- The selected labels, each where it comes first. -/
def labels (b : BaseQuery) : List String := firstOccurrences (b.select.map SelectItem.label)

/-- The role of a label. -/
def roleOf (b : BaseQuery) (l : String) : LabelRole :=
  if l ∈ b.groupBy then .grain
  else if endsIn foreignKeyEnding l then .foreignKey
  else if endsIn temporalEnding l then .temporal
  else .measure

theorem roleOf_eq_iff : b.roleOf l = role ↔ role.Fits b.groupBy l := by
  have hkey : endsIn foreignKeyEnding l = true ↔ ∃ stem, l = stem ++ "_id" := endsIn_iff
  have htemporal : endsIn temporalEnding l = true ↔ ∃ stem, l = stem ++ "_date" := endsIn_iff
  have hboth := endsIn_temporalEnding_of_foreignKeyEnding (l := l)
  cases role <;> grind [roleOf, LabelRole.Fits]

end BaseQuery

namespace FactQuery
variable {b : BaseQuery} {role : LabelRole} {l : String}

/-- The dimension columns after the foreign keys. -/
def temporalColumns (q : FactQuery) : List String := q.dimensionColumns.drop q.foreignKeys.length

/-- The columns that have a role in a query. -/
def columnsOf (q : FactQuery) : LabelRole → List String
  | .grain => q.grainColumns
  | .foreignKey => q.foreignKeys
  | .temporal => q.temporalColumns
  | .measure => q.measures

theorem temporalColumns_promote (b : BaseQuery) :
    b.promote.temporalColumns = b.temporalLabels := List.drop_left

theorem columnsOf_promote (hrole : role ≠ .grain) :
    b.promote.columnsOf role = b.labels.filter (b.roleOf · = role) := by
  have hfilter : ∀ p : String → Bool,
      (∀ l, (p l && !b.groupBy.contains l) = decide (b.roleOf l = role)) →
        b.openLabels.filter p = b.labels.filter (b.roleOf · = role) := fun p hp =>
    List.filter_filter.trans (List.filter_congr fun l _ => hp l)
  cases role with
  | grain => exact (hrole rfl).elim
  | foreignKey => exact hfilter _ fun l => by grind [BaseQuery.roleOf]
  | temporal =>
    refine (temporalColumns_promote b).trans (hfilter _ fun l => ?_)
    grind [BaseQuery.roleOf]
  | measure => exact hfilter _ fun l => by grind [BaseQuery.roleOf]

theorem mem_columnsOf_promote (hrole : role ≠ .grain) :
    l ∈ b.promote.columnsOf role ↔ l ∈ b.select.map SelectItem.label ∧ b.roleOf l = role := by
  rw [columnsOf_promote hrole, List.mem_filter, BaseQuery.labels, mem_firstOccurrences,
    decide_eq_true_eq]

theorem mem_grainColumns_promote : l ∈ b.promote.columnsOf .grain ↔ b.roleOf l = .grain := by
  rw [BaseQuery.roleOf_eq_iff]
  rfl

theorem roleOf_of_mem_columnsOf (h : l ∈ b.promote.columnsOf role) : b.roleOf l = role := by
  by_cases hrole : role = .grain
  · subst hrole
    exact mem_grainColumns_promote.1 h
  · exact ((mem_columnsOf_promote hrole).1 h).2

theorem mem_columnsOf_roleOf (h : l ∈ b.labels) : l ∈ b.promote.columnsOf (b.roleOf l) := by
  by_cases hrole : b.roleOf l = .grain
  · rw [hrole]
    exact mem_grainColumns_promote.2 hrole
  · exact (mem_columnsOf_promote hrole).2 ⟨mem_firstOccurrences.1 h, rfl⟩

/-- The labels of `b` are listed in `q` by their roles, and all else of `b` is kept. -/
structure Classifies (b : BaseQuery) (q : FactQuery) : Prop where
  toBaseQuery : q.toBaseQuery = b
  grainColumns : q.grainColumns = b.groupBy
  dimensionColumns : q.dimensionColumns = q.foreignKeys ++ q.temporalColumns
  aggregations : q.aggregations = .empty
  /-- No label is lost. -/
  role : ∀ l ∈ b.labels, ∃! role, l ∈ q.columnsOf role
  /-- No column has two roles, be it selected or not. -/
  apart : ∀ role role' l, l ∈ q.columnsOf role → l ∈ q.columnsOf role' → role = role'
  fits : ∀ role, role ≠ .grain → ∀ l,
    l ∈ q.columnsOf role ↔ l ∈ b.select.map SelectItem.label ∧ role.Fits b.groupBy l
  nodup : ∀ role, role ≠ .grain → (q.columnsOf role).Nodup
  sublist : ∀ role, role ≠ .grain → (q.columnsOf role).Sublist b.labels
  /-- Of two labels the one that is selected first stands first. -/
  ordered : ∀ role, role ≠ .grain → (q.columnsOf role).Pairwise fun l l' =>
    (b.select.map SelectItem.label).idxOf l < (b.select.map SelectItem.label).idxOf l'

/-- Promotion takes every base query and gives each of its labels exactly one role. -/
theorem normalize_classifies (b : BaseQuery) :
    ∃ q, Pass.run .normalize (.base b) = .ok (.fact q) ∧ q.Classifies b := by
  have hapart : ∀ role role' l, l ∈ b.promote.columnsOf role → l ∈ b.promote.columnsOf role' →
      role = role' := fun role role' l h h' =>
    (roleOf_of_mem_columnsOf h).symm.trans (roleOf_of_mem_columnsOf h')
  refine ⟨b.promote, rfl, rfl, rfl, ?_, rfl, fun l hl => ?_, hapart, fun role hrole l => ?_,
    fun role hrole => ?_, fun role hrole => ?_, fun role hrole => ?_⟩
  · rw [temporalColumns_promote]
    rfl
  · have hmem := mem_columnsOf_roleOf hl
    exact ⟨b.roleOf l, hmem, fun role h => hapart role (b.roleOf l) l h hmem⟩
  · rw [mem_columnsOf_promote hrole, BaseQuery.roleOf_eq_iff]
  · rw [columnsOf_promote hrole]
    exact (nodup_firstOccurrences _).filter _
  · rw [columnsOf_promote hrole]
    exact List.filter_sublist
  · rw [columnsOf_promote hrole]
    exact (pairwise_idxOf_firstOccurrences _).filter _

end FactQuery
end FactViews
