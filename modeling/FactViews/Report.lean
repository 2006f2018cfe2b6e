import FactViews.Query.Build
import FactViews.Query.Pipeline
import FactViews.Statement

/-! # Compilation

Every fact of a model is compiled on its own: built, passed through the standard pipeline and
rendered. A failure concerns one fact only; the report keeps successes and failures apart, both
in the order of the facts. -/

namespace FactViews

/-- What is chosen for a compilation. -/
structure CompileOptions where
  dialect : Dialect := .generic
  plan : AggregationPlan := {}
deriving DecidableEq, Repr, Inhabited

/-- Where a fact failed. -/
inductive Stage where
  | build
  | pass (kind : PassKind)
  | render
deriving DecidableEq, Repr

/-- The name of a stage. -/
def Stage.name : Stage → String
  | .build => "build"
  | .pass kind => kind.name
  | .render => "render"

/-- Why a fact failed. -/
inductive CompileError where
  | build (cause : EmptyGrain)
  | pipeline (cause : PipelineError)
  | render (cause : RenderError)
deriving DecidableEq, Repr

namespace CompileError

/-- The stage of a failure. -/
def stage : CompileError → Stage
  | .build _ => .build
  | .pipeline e => .pass e.pass
  | .render _ => .render

/-- The text shown for a failure. -/
def message : CompileError → String
  | .build e => e.message
  | .pipeline e => e.message
  | .render e => e.message

end CompileError

/-- A fact that was compiled. -/
structure CompiledFact where
  name : String
  sql : String
deriving DecidableEq, Repr

/-- A fact that failed, with the stage at which it did. -/
structure FactFailure where
  fact : String
  stage : Stage
  cause : CompileError
deriving DecidableEq, Repr

/-- The line that describes the failure. -/
def FactFailure.text (f : FactFailure) : String :=
  "[" ++ f.stage.name ++ "] " ++ f.fact ++ ": " ++ f.cause.message

/-- Successes and failures, both in fact order. -/
structure Report where
  compiled : List CompiledFact := []
  failures : List FactFailure := []
deriving DecidableEq, Repr, Inhabited

namespace Report

/-- Whether no fact failed. -/
def isSuccess (r : Report) : Bool := r.failures.isEmpty

/-- The statement of a fact that was compiled. -/
def sqlFor (r : Report) (fact : String) : Option String :=
  (r.compiled.find? (·.name = fact)).map CompiledFact.sql

/-- The failure of a fact that failed. -/
def failureFor (r : Report) (fact : String) : Option FactFailure :=
  r.failures.find? (·.fact = fact)

/-- Sorts outcomes into successes and failures. -/
def ofOutcomes (outcomes : List (Except FactFailure CompiledFact)) : Report where
  compiled := outcomes.filterMap fun
    | .ok c => some c
    | .error _ => none
  failures := outcomes.filterMap fun
    | .ok _ => none
    | .error f => some f

end Report

namespace Model

/-- The statement of a fact, or why there is none. -/
def factStatement (m : Model) (o : CompileOptions) (f : Fact) : Except CompileError String :=
  match f.toQuery with
  | .error e => .error (.build e)
  | .ok base =>
    match (Pipeline.standard m o.plan).run (.base base) with
    | .error e => .error (.pipeline e)
    | .ok query =>
      match o.dialect.renderQuery query with
      | .error e => .error (.render e)
      | .ok sql => .ok sql

/-- Compiles one fact. -/
def compileFact (m : Model) (o : CompileOptions) (f : Fact) : Except FactFailure CompiledFact :=
  match m.factStatement o f with
  | .error cause => .error ⟨f.name, cause.stage, cause⟩
  | .ok sql => .ok ⟨f.name, sql⟩

/-- Compiles every fact. -/
def compile (m : Model) (o : CompileOptions) : Report :=
  .ofOutcomes (m.facts.values.map (m.compileFact o))

/-- What compiling one fact reports. -/
def factEvents (m : Model) (o : CompileOptions) (f : Fact) : List Trace.Event :=
  match f.toQuery with
  | .error _ => []
  | .ok base => (Pipeline.standard m o.plan).events (.base base)

/-- What is reported about the outcome of a fact. -/
def outcomeEvent : Except FactFailure CompiledFact → Trace.Event
  | .ok c =>
    { level := .info
      target := "semview::compile"
      message := "compiled fact"
      fields := [("fact", c.name)] }
  | .error f =>
    { level := .warn
      target := "semview::compile"
      message := "fact failed to compile"
      fields := [("fact", f.fact), ("stage", f.stage.name), ("error", f.cause.message)] }

/-- What a compilation reports: the work on every fact, then every outcome. -/
def compileEvents (m : Model) (o : CompileOptions) : List Trace.Event :=
  m.facts.values.flatMap (m.factEvents o) ++
    m.facts.values.map fun f => outcomeEvent (m.compileFact o f)

end Model
end FactViews
