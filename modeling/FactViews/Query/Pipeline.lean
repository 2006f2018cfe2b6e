import FactViews.Query.Aggregation
import FactViews.Query.Joins
import FactViews.Query.Roles

/-! # Passes and pipelines

A pass turns a query into the next query. Promotion takes a base query, the two binding passes
take a fact query; a pass that meets the other kind of query fails. A pipeline runs passes from
left to right and stops at the first failure. -/

namespace FactViews

/-- The kinds of pass. -/
inductive PassKind where
  | normalize
  | bindAggregation
  | bindJoins
deriving DecidableEq, Repr

/-- The name under which a pass is reported. -/
def PassKind.name : PassKind → String
  | .normalize => "normalize_fact_query"
  | .bindAggregation => "bind_measure_aggregation"
  | .bindJoins => "bind_dimension_joins"

/-- One step of a pipeline. -/
inductive Pass where
  | normalize
  | bindAggregation (plan : AggregationPlan)
  | bindJoins (model : Model)
deriving DecidableEq, Repr

/-- The failures of a pass. -/
inductive PassError where
  /-- The pass takes the other kind of query. -/
  | wrongKind (pass : PassKind) (expected found : QueryKind)
  /-- A foreign key cannot be bound. -/
  | unboundKey (key : UnboundKey)
deriving DecidableEq, Repr

/-- The text shown for the failure of a pass. -/
def PassError.message : PassError → String
  | .wrongKind pass expected found =>
    "pass '" ++ pass.name ++ "' expects a " ++ expected.label ++ ", got a " ++ found.label
  | .unboundKey key => key.message

namespace Pass

/-- The kind of a pass. -/
def kind : Pass → PassKind
  | .normalize => .normalize
  | .bindAggregation _ => .bindAggregation
  | .bindJoins _ => .bindJoins

/-- Applies a pass to a query. -/
def run : Pass → Query → Except PassError Query
  | .normalize, .base q => .ok (.fact q.promote)
  | .bindAggregation plan, .fact q => .ok (.fact (plan.bind q))
  | .bindJoins m, .fact q =>
    match q.bindJoins m with
    | .error e => .error (.unboundKey e)
    | .ok q' => .ok (.fact q')
  | .normalize, .fact _ => .error (.wrongKind .normalize .base .fact)
  | .bindAggregation _, .base _ => .error (.wrongKind .bindAggregation .fact .base)
  | .bindJoins _, .base _ => .error (.wrongKind .bindJoins .fact .base)

/-- What a pass reports on a query. -/
def events : Pass → Query → List Trace.Event
  | .normalize, .base q => [q.promotedEvent]
  | .bindAggregation plan, .fact q => [(plan.bind q).aggregatedEvent]
  | .bindJoins m, .fact q => q.joinEvents m
  | _, _ => []

/-- What is reported before a pass runs. -/
def startEvent (p : Pass) (q : Query) : Trace.Event where
  level := .debug
  target := "semview::passes::pipeline"
  message := "running pass"
  fields := [("pass", p.kind.name), ("fact", q.fromTable)]

end Pass

/-- The failure of a pipeline: the pass that failed, and on which table. -/
structure PipelineError where
  fact : String
  pass : PassKind
  cause : PassError
deriving DecidableEq, Repr

/-- The text shown for the failure of a pipeline. -/
def PipelineError.message (e : PipelineError) : String :=
  "pass '" ++ e.pass.name ++ "' failed for '" ++ e.fact ++ "': " ++ e.cause.message

/-- Passes that run from left to right. -/
abbrev Pipeline := List Pass

namespace Pipeline

/-- Promotion, then aggregation by a plan, then joins with a model. -/
def standard (m : Model) (plan : AggregationPlan) : Pipeline :=
  [.normalize, .bindAggregation plan, .bindJoins m]

/-- Runs every pass on the result of the one before. -/
def run : Pipeline → Query → Except PipelineError Query
  | [], q => .ok q
  | p :: ps, q =>
    match p.run q with
    | .error cause => .error ⟨q.fromTable, p.kind, cause⟩
    | .ok q' => run ps q'

/-- What a run reports. -/
def events : Pipeline → Query → List Trace.Event
  | [], _ => []
  | p :: ps, q =>
    p.startEvent q :: p.events q ++
      match p.run q with
      | .error _ => []
      | .ok q' => events ps q'

end Pipeline
end FactViews
