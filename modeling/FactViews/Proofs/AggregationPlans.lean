import FactViews.Settings
import FactViews.Proofs.CatalogLemmas

/-! # Aggregation plans and what they bind

A plan is set up by calls that set the fallback or the operators of measures. After any sequence
of calls it `Reflects` them: the last operator given to a measure is found, and the fallback is the
last one set. One more call keeps this (`Reflects.apply`). What a plan binds depends on nothing but
the operators of the measures of a query (`bind_congr`), in whose order the bound measures stand. -/

namespace FactViews
open Text Catalog

/-- A call that sets up a plan. -/
inductive PlanCall where
  | fallback (op : Aggregate)
  | override (measure : String) (op : Aggregate)
  | overrides (ops : List (String × Aggregate))
deriving DecidableEq, Repr

namespace PlanCall

/-- The operators that a call gives to measures. -/
def given : PlanCall → List (String × Aggregate)
  | .fallback _ => []
  | .override measure op => [(measure, op)]
  | .overrides ops => ops

/-- The fallback that a call sets. -/
def fallback? : PlanCall → Option Aggregate
  | .fallback op => some op
  | .override _ _ => none
  | .overrides _ => none

end PlanCall

/-- The plan of settings has the operators that they list. -/
theorem AggregationSettings.binder_eq (s : AggregationSettings) :
    s.binder = ⟨s.fallback, s.overrides⟩ := by
  have hoverrides : (empty : Catalog Aggregate).insertAll s.overrides.entries = s.overrides :=
    ofList_entries s.overrides
  simp only [binder, AggregationPlan.withFallback, AggregationPlan.withOverrides, hoverrides]

namespace AggregationPlan
variable {p p' : AggregationPlan} {q : FactQuery}

/-- The plan after one more call. -/
def apply (p : AggregationPlan) : PlanCall → AggregationPlan
  | .fallback op => p.withFallback op
  | .override measure op => p.withOverride measure op
  | .overrides ops => p.withOverrides ops

/-- The plan that calls make of the standard one, one after another. -/
def ofCalls (calls : List PlanCall) : AggregationPlan := calls.foldl apply {}

/-- A plan says what the last calls said. -/
structure Reflects (p : AggregationPlan) (calls : List PlanCall) : Prop where
  overrides : ∀ m, p.overrides.find? m =
    (latest? Prod.fst (calls.flatMap PlanCall.given) m).map Prod.snd
  fallback : p.fallback = (calls.filterMap PlanCall.fallback?).getLast?.getD .sum

theorem Reflects.setFallback (h : p.Reflects calls) (op : Aggregate) :
    (p.withFallback op).Reflects (calls ++ [.fallback op]) where
  overrides m := by
    rw [List.flatMap_append]
    simpa [PlanCall.given, withFallback] using h.overrides m
  fallback := by
    rw [List.filterMap_append]
    simp [PlanCall.fallback?, withFallback]

/-- A call that sets no fallback adds the operators that it gives. -/
theorem Reflects.setOverrides (h : p.Reflects calls) (call : PlanCall)
    (hcall : call.fallback? = none) :
    (p.withOverrides call.given).Reflects (calls ++ [call]) where
  overrides m := by
    rw [List.flatMap_append, latest?_append, Option.map_or, ← h.overrides]
    simpa [withOverrides] using find?_insertAll p.overrides call.given m
  fallback := by
    rw [List.filterMap_append]
    simpa [hcall, withOverrides] using h.fallback

theorem Reflects.apply (h : p.Reflects calls) (call : PlanCall) :
    (p.apply call).Reflects (calls ++ [call]) := by
  cases call with
  | fallback op => exact h.setFallback op
  | override measure op => exact h.setOverrides (.override measure op) rfl
  | overrides ops => exact h.setOverrides (.overrides ops) rfl

theorem reflects_ofCalls (calls : List PlanCall) : (ofCalls calls).Reflects calls := by
  induction calls using List.reverseRecOn with
  | nil => exact ⟨fun _ => rfl, rfl⟩
  | append_singleton calls call ih =>
    rw [ofCalls, List.foldl_append]
    exact ih.apply call

theorem operatorFor_withOverrides (p : AggregationPlan) (ops : List (String × Aggregate))
    (m : String) :
    (p.withOverrides ops).operatorFor m =
      ((latest? Prod.fst ops m).map Prod.snd).getD (p.operatorFor m) := by
  rw [operatorFor, withOverrides, find?_insertAll, operatorFor]
  cases latest? Prod.fst ops m <;> rfl

theorem entries_bind (p : AggregationPlan) (q : FactQuery) :
    (p.bind q).aggregations.entries =
      (firstOccurrences q.measures).map fun m => (m, ⟨m, p.operatorFor m⟩) :=
  entries_ofList_map p.bindMeasure q.measures

theorem bind_congr (h : ∀ m ∈ q.measures, p.operatorFor m = p'.operatorFor m) :
    p.bind q = p'.bind q := by
  have hbound : ∀ m ∈ q.measures, (m, p.bindMeasure m) = (m, p'.bindMeasure m) := by
    intro m hm
    rw [bindMeasure, h m hm, bindMeasure]
  rw [bind, List.map_congr_left hbound, bind]

/-- Operators for names that are no measures of a query are not bound. -/
theorem bind_withOverrides_filter (p : AggregationPlan) (ops : List (String × Aggregate))
    (q : FactQuery) :
    (p.withOverrides ops).bind q =
      (p.withOverrides (ops.filter (·.1 ∈ q.measures))).bind q := by
  refine bind_congr fun m hm => ?_
  have hlatest : latest? Prod.fst (ops.filter (·.1 ∈ q.measures)) m = latest? Prod.fst ops m := by
    rw [latest?, List.filter_filter, latest?]
    congr 1
    refine List.filter_congr fun e _ => ?_
    by_cases he : e.1 = m
    · simp [he, hm]
    · simp [he]
  rw [operatorFor_withOverrides, operatorFor_withOverrides, hlatest]

/-- The operator of a measure is the last one that was given to it, or else the last fallback, or
else the sum; for settings it is the one that they list, or else their fallback. Binding a plan
gives every measure of a query its operator, once and in the order of the measures, and leaves the
rest of the query as it is. Neither what was bound before nor operators for other names matter. -/
theorem operators_of_plan :
    (∀ calls m, (ofCalls calls).operatorFor m =
      ((latest? Prod.fst (calls.flatMap PlanCall.given) m).map Prod.snd).getD
        ((calls.filterMap PlanCall.fallback?).getLast?.getD .sum)) ∧
    (∀ s : AggregationSettings,
      s.binder = ofCalls [.fallback s.fallback, .overrides s.overrides.entries] ∧
      ∀ m, s.binder.operatorFor m = (s.overrides.find? m).getD s.fallback) ∧
    (∀ s : Settings, s.compileOptions.plan = s.aggregation.binder) ∧
    ∀ (p : AggregationPlan) (q : FactQuery),
      (∃ bound : Catalog BoundMeasure,
        (Pass.bindAggregation p).run (.fact q) = .ok (.fact { q with aggregations := bound }) ∧
        bound.names = firstOccurrences q.measures ∧
        bound.entries = (firstOccurrences q.measures).map fun m => (m, ⟨m, p.operatorFor m⟩)) ∧
      (∀ old, (Pass.bindAggregation p).run (.fact { q with aggregations := old }) =
        (Pass.bindAggregation p).run (.fact q)) ∧
      ∀ ops, (Pass.bindAggregation (p.withOverrides ops)).run (.fact q) =
        (Pass.bindAggregation (p.withOverrides (ops.filter (·.1 ∈ q.measures)))).run (.fact q) := by
  refine ⟨fun calls m => ?_, fun s => ⟨rfl, fun m => ?_⟩, fun s => rfl,
    fun p q => ⟨⟨(p.bind q).aggregations, rfl, ?_, p.entries_bind q⟩, fun old => rfl,
      fun ops => ?_⟩⟩
  · obtain ⟨hoverrides, hfallback⟩ := reflects_ofCalls calls
    rw [operatorFor, hoverrides, hfallback]
  · rw [AggregationSettings.binder_eq, operatorFor]
  · rw [names, entries_bind, List.map_map]
    exact List.map_id _
  · simp only [Pass.run, p.bind_withOverrides_filter ops q]

/-- Setting the fallback leaves the operators that were given before it. -/
example : ["price", "day", "amount"].map (ofCalls [.override "price" .max,
    .overrides [("day", .count), ("price", .min)], .fallback .avg]).operatorFor =
      [.min, .count, .avg] := by decide +kernel

end AggregationPlan
end FactViews
