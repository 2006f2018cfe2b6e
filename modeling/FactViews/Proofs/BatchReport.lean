import Mathlib.Algebra.GroupWithZero.Nat
import Mathlib.Data.List.Sort
import Mathlib.Logic.Relation
import FactViews.Proofs.Compilation
import FactViews.Proofs.LoweringSteps

/-! # The report of a batch

The facts of a model are compiled one by one or by several workers. A batch is the list of facts
with a slot for each of them, and a step of the workers takes up any fact that waits or finishes
any fact that is being compiled. No step changes what the slots will hold in the end
(`BatchStep.map_outcome`), so whatever the order of the steps the outcomes are those of compiling
the facts in order. A report sorts the outcomes into successes and failures; because no two facts
of a model have the same name, it can be merged again and each outcome can be found by name. -/

namespace FactViews

/-! ## Models that are built up -/

namespace Model
variable {m : Model}

/-- Models that are made from documents or by adding facts and dimensions. -/
inductive Built : Model → Prop where
  | empty : Built .empty
  | lowered {d : Document} {m : Model} : d.toModel = .ok m → Built m
  | addFact {m : Model} (f : Fact) : Built m → Built (m.addFact f)
  | addDimension {m : Model} (d : Dimension) : Built m → Built (m.addDimension d)

/-- Every fact stands under its own name. -/
theorem Built.name_eq (h : m.Built) : ∀ e ∈ m.facts.entries, e.2.name = e.1 := by
  induction h with
  | empty => exact nofun
  | lowered h =>
    obtain ⟨hfacts, -⟩ := Document.toModel_eq_ok_iff_lowers.1 h
    rw [hfacts]
    intro e he
    obtain ⟨s, -, rfl⟩ := List.mem_map.1 he
    rfl
  | addFact f _ ih =>
    intro e he
    rcases Catalog.mem_place he with rfl | he
    · rfl
    · exact ih e he
  | addDimension _ _ ih => exact ih

/-- Every dimension stands under its own name. -/
theorem Built.dimension_name_eq (h : m.Built) : ∀ e ∈ m.dimensions.entries, e.2.name = e.1 := by
  induction h with
  | empty => exact nofun
  | lowered h =>
    intro e he
    obtain ⟨-, hdims⟩ := Document.toModel_eq_ok_iff_lowers.1 h
    obtain ⟨s, hs⟩ := DimensionSpec.exists_of_lowers hdims e he
    exact DimensionSpec.name_of_toDimension hs
  | addFact _ _ ih => exact ih
  | addDimension d _ ih =>
    intro e he
    rcases Catalog.mem_place he with rfl | he
    · rfl
    · exact ih e he

theorem Built.map_name_values (h : m.Built) : m.facts.values.map Fact.name = m.facts.names :=
  Catalog.map_key_values_of_named h.name_eq

theorem Built.find?_facts (h : m.Built) {f : Fact} :
    m.facts.find? name = some f ↔ f ∈ m.facts.values ∧ f.name = name :=
  Catalog.find?_eq_some_iff_of_named h.name_eq

theorem Built.find?_dimensions (h : m.Built) {d : Dimension} :
    m.dimensions.find? name = some d ↔ d ∈ m.dimensions.values ∧ d.name = name :=
  Catalog.find?_eq_some_iff_of_named h.dimension_name_eq

end Model

/-! ## Batches -/

/-- What compiling one fact ends with. -/
abbrev Outcome := Except FactFailure CompiledFact

/-- The name of the fact that an outcome is about. -/
def Outcome.fact : Outcome → String
  | .ok c => c.name
  | .error e => e.fact

/-- The place of one fact in a batch. -/
inductive Slot where
  | waiting (f : Fact)
  | running (f : Fact)
  | done (outcome : Outcome)

/-- What a slot holds once its fact is compiled. -/
def Slot.outcome (compile : Fact → Outcome) : Slot → Outcome
  | .waiting f => compile f
  | .running f => compile f
  | .done outcome => outcome

/-- The steps that are left for a slot. -/
def Slot.stepsLeft : Slot → Nat
  | .waiting _ => 2
  | .running _ => 1
  | .done _ => 0

/-- One step of the workers: any fact that waits is taken up, or any fact that is being compiled is
finished and its outcome is put into its own slot. -/
inductive BatchStep (compile : Fact → Outcome) : List Slot → List Slot → Prop where
  | start (pre post : List Slot) (f : Fact) :
    BatchStep compile (pre ++ .waiting f :: post) (pre ++ .running f :: post)
  | finish (pre post : List Slot) (f : Fact) :
    BatchStep compile (pre ++ .running f :: post) (pre ++ .done (compile f) :: post)

/-- The states that the workers can bring a batch into. -/
def BatchReaches (compile : Fact → Outcome) (facts : List Fact) (slots : List Slot) : Prop :=
  Relation.ReflTransGen (BatchStep compile) (facts.map .waiting) slots

section Batch
variable {compile : Fact → Outcome} {slots slots' : List Slot}

theorem BatchStep.map_outcome (h : BatchStep compile slots slots') :
    slots'.map (Slot.outcome compile) = slots.map (Slot.outcome compile) := by
  cases h with
  | start | finish => simp only [List.map_append, List.map_cons, Slot.outcome]

/-- Every step brings a batch nearer to its end. -/
theorem BatchStep.stepsLeft_lt (h : BatchStep compile slots slots') :
    (slots'.map Slot.stepsLeft).sum < (slots.map Slot.stepsLeft).sum := by
  cases h with
  | start | finish =>
    simp only [List.map_append, List.map_cons, List.sum_append, List.sum_cons, Slot.stepsLeft]
    omega

/-- The workers never get stuck. -/
theorem exists_batchStep_or_done (compile : Fact → Outcome) (slots : List Slot) :
    (∃ slots', BatchStep compile slots slots') ∨
      ∃ outcomes : List Outcome, slots = outcomes.map .done := by
  induction slots with
  | nil => exact .inr ⟨[], rfl⟩
  | cons s slots ih =>
    cases s with
    | waiting f => exact .inl ⟨_, .start [] slots f⟩
    | running f => exact .inl ⟨_, .finish [] slots f⟩
    | done outcome =>
      rcases ih with ⟨_, hstep⟩ | ⟨outcomes, rfl⟩
      · left
        cases hstep with
        | start pre post f => exact ⟨_, .start (.done outcome :: pre) post f⟩
        | finish pre post f => exact ⟨_, .finish (.done outcome :: pre) post f⟩
      · exact .inr ⟨outcome :: outcomes, rfl⟩

theorem BatchReaches.map_outcome {facts : List Fact} (h : BatchReaches compile facts slots) :
    slots.map (Slot.outcome compile) = facts.map compile := by
  induction h with
  | refl =>
    rw [List.map_map]
    rfl
  | tail _ hstep ih => rw [hstep.map_outcome, ih]

/-- When all facts are compiled, the slots hold what compiling them in order gives. -/
theorem BatchReaches.eq_map_of_done {facts : List Fact} {outcomes : List Outcome}
    (h : BatchReaches compile facts (outcomes.map .done)) : outcomes = facts.map compile := by
  rw [← h.map_outcome, List.map_map]
  exact (List.map_id _).symm

end Batch

/-! ## Successes and failures -/

namespace Report

/-- Whether the fact of one outcome stands no later among the given names than that of another. -/
def notAfter (names : List String) (a b : Outcome) : Bool :=
  names.idxOf a.fact ≤ names.idxOf b.fact

/-- Successes and failures merged into one list in the order of the given names. -/
def merged (r : Report) (names : List String) : List Outcome :=
  List.merge (r.compiled.map .ok) (r.failures.map .error) (notAfter names)

theorem map_ok_compiled (outcomes : List Outcome) :
    (ofOutcomes outcomes).compiled.map .ok = outcomes.filter Except.isOk := by
  induction outcomes with
  | nil => rfl
  | cons out outcomes ih =>
    cases out with
    | ok c =>
      rw [List.filter_cons_of_pos rfl, ← ih]
      rfl
    | error e =>
      rw [List.filter_cons_of_neg Bool.false_ne_true, ← ih]
      rfl

theorem map_error_failures (outcomes : List Outcome) :
    (ofOutcomes outcomes).failures.map .error = outcomes.filter (!Except.isOk ·) := by
  induction outcomes with
  | nil => rfl
  | cons out outcomes ih =>
    cases out with
    | ok c =>
      rw [List.filter_cons_of_neg Bool.false_ne_true, ← ih]
      rfl
    | error e =>
      rw [List.filter_cons_of_pos rfl, ← ih]
      rfl

theorem map_name_compiled (outcomes : List Outcome) :
    (ofOutcomes outcomes).compiled.map CompiledFact.name =
      (outcomes.filter Except.isOk).map Outcome.fact := by
  rw [← map_ok_compiled, List.map_map]
  rfl

theorem map_fact_failures (outcomes : List Outcome) :
    (ofOutcomes outcomes).failures.map FactFailure.fact =
      (outcomes.filter (!Except.isOk ·)).map Outcome.fact := by
  rw [← map_error_failures, List.map_map]
  rfl

theorem mem_compiled_ofOutcomes {outcomes : List Outcome} {c : CompiledFact} :
    c ∈ (ofOutcomes outcomes).compiled ↔ .ok c ∈ outcomes := by
  rw [← List.mem_map_of_injective (fun _ _ => Except.ok.inj), map_ok_compiled, List.mem_filter]
  exact and_iff_left rfl

theorem mem_failures_ofOutcomes {outcomes : List Outcome} {e : FactFailure} :
    e ∈ (ofOutcomes outcomes).failures ↔ .error e ∈ outcomes := by
  rw [← List.mem_map_of_injective (fun _ _ => Except.error.inj), map_error_failures,
    List.mem_filter]
  exact and_iff_left rfl

theorem isSuccess_ofOutcomes {outcomes : List Outcome} :
    (ofOutcomes outcomes).isSuccess = true ↔ ∀ out ∈ outcomes, out.isOk = true := by
  have hnone : (ofOutcomes outcomes).failures.map Except.error = ([] : List Outcome) ↔
      (ofOutcomes outcomes).failures = [] := List.map_eq_nil_iff
  rw [isSuccess, List.isEmpty_iff, ← hnone, map_error_failures, List.filter_eq_nil_iff]
  simp only [Bool.not_eq_true', Bool.not_eq_false]

/-- No fact failed exactly if every fact is listed as compiled. -/
theorem isSuccess_iff_map_name {outcomes : List Outcome} :
    (ofOutcomes outcomes).isSuccess = true ↔
      (ofOutcomes outcomes).compiled.map CompiledFact.name = outcomes.map Outcome.fact := by
  rw [isSuccess_ofOutcomes, map_name_compiled]
  constructor
  · intro hall
    rw [List.filter_eq_self.2 hall]
  · intro hnames
    have hlength : (outcomes.filter Except.isOk).length = outcomes.length := by
      simpa using congrArg List.length hnames
    exact List.length_filter_eq_length_iff.1 hlength

section Distinct
variable {outcomes : List Outcome} (h : (outcomes.map Outcome.fact).Nodup)
include h

theorem idxOf_fact {k : Nat} (hk : k < outcomes.length) :
    (outcomes.map Outcome.fact).idxOf outcomes[k].fact = k := by
  have hidx := h.idxOf_getElem k (by simpa using hk)
  rwa [List.getElem_map] at hidx

/-- Outcomes stand in the order of the facts they are about. -/
theorem pairwise_notAfter :
    outcomes.Pairwise (notAfter (outcomes.map Outcome.fact) · · = true) := by
  rw [List.pairwise_iff_getElem]
  intro i j hi hj hij
  rw [notAfter, idxOf_fact h hi, idxOf_fact h hj]
  exact decide_eq_true hij.le

/-- Merging undoes sorting into successes and failures. -/
theorem merged_ofOutcomes :
    (ofOutcomes outcomes).merged (outcomes.map Outcome.fact) = outcomes := by
  have hsorted := pairwise_notAfter h
  have hperm : ((ofOutcomes outcomes).merged (outcomes.map Outcome.fact)).Perm outcomes := by
    refine (List.merge_perm_append _).trans ?_
    rw [map_ok_compiled, map_error_failures]
    exact List.filter_append_perm _ _
  refine List.Perm.eq_of_pairwise ?_ (List.pairwise_merge ?_ ?_ _ _ ?_ ?_) hsorted hperm
  · intro a b ha hb hab hba
    have ha' : a ∈ outcomes := hperm.mem_iff.1 ha
    have hidx : (outcomes.map Outcome.fact).idxOf a.fact =
        (outcomes.map Outcome.fact).idxOf b.fact :=
      le_antisymm (of_decide_eq_true hab) (of_decide_eq_true hba)
    have hfact : a.fact = b.fact := (List.idxOf_inj (List.mem_map_of_mem ha')).1 hidx
    exact List.inj_on_of_nodup_map h ha' hb hfact
  · intro a b c hab hbc
    exact decide_eq_true (le_trans (of_decide_eq_true hab) (of_decide_eq_true hbc))
  · intro a b
    simp only [notAfter, Bool.or_eq_true, decide_eq_true_eq]
    omega
  · rw [map_ok_compiled]
    exact hsorted.filter _
  · rw [map_error_failures]
    exact hsorted.filter _

theorem sqlFor_ofOutcomes {name sql : String} :
    (ofOutcomes outcomes).sqlFor name = some sql ↔ .ok ⟨name, sql⟩ ∈ outcomes := by
  have hnames : ((ofOutcomes outcomes).compiled.map CompiledFact.name).Nodup := by
    rw [map_name_compiled]
    exact h.sublist (List.filter_sublist.map _)
  rw [sqlFor, Option.map_eq_some_iff, ← mem_compiled_ofOutcomes]
  constructor
  · rintro ⟨⟨n, s⟩, hfind, rfl⟩
    obtain ⟨hmem, rfl⟩ := (Catalog.find?_key_eq_some_iff hnames).1 hfind
    exact hmem
  · intro hmem
    exact ⟨⟨name, sql⟩, (Catalog.find?_key_eq_some_iff hnames).2 ⟨hmem, rfl⟩, rfl⟩

theorem failureFor_ofOutcomes {name : String} {e : FactFailure} :
    (ofOutcomes outcomes).failureFor name = some e ↔ .error e ∈ outcomes ∧ e.fact = name := by
  have hnames : ((ofOutcomes outcomes).failures.map FactFailure.fact).Nodup := by
    rw [map_fact_failures]
    exact h.sublist (List.filter_sublist.map _)
  rw [← mem_failures_ofOutcomes]
  exact Catalog.find?_key_eq_some_iff hnames

end Distinct

end Report

/-- The fact names that the text of an error holds. -/
def CompileError.facts : CompileError → List String
  | .build e => [e.fact]
  | .pipeline ⟨fact, _, .wrongKind _ _ _⟩ => [fact]
  | .pipeline ⟨fact, _, .unboundKey key⟩ => [fact, key.fact]
  | .render (.breach fact _) => [fact]
  | .render (.unpromoted table) => [table]

namespace Model
variable {m : Model}

theorem fact_compileFact (m : Model) (o : CompileOptions) (f : Fact) :
    Outcome.fact (m.compileFact o f) = f.name := by
  unfold compileFact
  split <;> rfl

theorem facts_of_compileFact {o : CompileOptions} {f : Fact} (h : m.compileFact o f = .error e) :
    e.cause.facts ≠ [] ∧ ∀ name ∈ e.cause.facts, name = e.fact := by
  rcases m.compileFact_cases o f with ⟨-, herror⟩ | ⟨-, k, -, herror⟩ | ⟨-, dim, -, hok⟩
  · rw [h] at herror
    cases herror
    simp [CompileError.facts]
  · rw [h] at herror
    cases herror
    simp [CompileError.facts]
  · rw [h] at hok
    cases hok

theorem Built.map_fact_outcomes (h : m.Built) (o : CompileOptions) :
    (m.facts.values.map (m.compileFact o)).map Outcome.fact = m.facts.names := by
  rw [← h.map_name_values, List.map_map]
  exact List.map_congr_left fun f _ => m.fact_compileFact o f

theorem Built.nodup_outcomes (h : m.Built) (o : CompileOptions) :
    ((m.facts.values.map (m.compileFact o)).map Outcome.fact).Nodup := by
  rw [h.map_fact_outcomes]
  exact m.facts.distinct

theorem Built.nodup_compiled (h : m.Built) (o : CompileOptions) :
    ((m.compile o).compiled.map CompiledFact.name).Nodup := by
  rw [compile, Report.map_name_compiled]
  exact (h.nodup_outcomes o).sublist (List.filter_sublist.map _)

/-- No fact is both compiled and failed. -/
theorem Built.name_ne_fact (h : m.Built) {o : CompileOptions} {c : CompiledFact} {e : FactFailure}
    (hc : c ∈ (m.compile o).compiled) (he : e ∈ (m.compile o).failures) : c.name ≠ e.fact := by
  intro heq
  rw [compile, Report.mem_compiled_ofOutcomes] at hc
  rw [compile, Report.mem_failures_ofOutcomes] at he
  cases List.inj_on_of_nodup_map (h.nodup_outcomes o) hc he heq

/-- A statement is found by name exactly if the fact of that name compiles to it. -/
theorem Built.sqlFor_compile (h : m.Built) {o : CompileOptions} :
    (m.compile o).sqlFor name = some sql ↔
      ∃ f, m.facts.find? name = some f ∧ m.compileFact o f = .ok ⟨name, sql⟩ := by
  rw [compile, Report.sqlFor_ofOutcomes (h.nodup_outcomes o), List.mem_map]
  constructor
  · rintro ⟨f, hf, hok⟩
    have hname : f.name = name := by rw [← m.fact_compileFact o f, hok, Outcome.fact]
    exact ⟨f, h.find?_facts.2 ⟨hf, hname⟩, hok⟩
  · rintro ⟨f, hf, hok⟩
    exact ⟨f, (h.find?_facts.1 hf).1, hok⟩

theorem Built.failureFor_compile (h : m.Built) {o : CompileOptions} :
    (m.compile o).failureFor name = some e ↔
      ∃ f, m.facts.find? name = some f ∧ m.compileFact o f = .error e := by
  rw [compile, Report.failureFor_ofOutcomes (h.nodup_outcomes o), List.mem_map]
  constructor
  · rintro ⟨⟨f, hf, herror⟩, rfl⟩
    have hname : f.name = e.fact := by rw [← m.fact_compileFact o f, herror, Outcome.fact]
    exact ⟨f, h.find?_facts.2 ⟨hf, hname⟩, herror⟩
  · rintro ⟨f, hf, herror⟩
    obtain ⟨hmem, rfl⟩ := h.find?_facts.1 hf
    refine ⟨⟨f, hmem, herror⟩, ?_⟩
    rw [← m.fact_compileFact o f, herror, Outcome.fact]

/-- The report of a model. However the workers go about the facts, they come to an end, and then
the report is that of compiling the facts in order. Its two lists, merged in the order of the
facts, are what compiling each fact gives, and every outcome is found under the name of its fact
and under no other. -/
theorem Built.report_of_any_schedule (h : m.Built) (o : CompileOptions) :
    (∀ slots, BatchReaches (m.compileFact o) m.facts.values slots →
      (∀ slots', BatchStep (m.compileFact o) slots slots' →
        (slots'.map Slot.stepsLeft).sum < (slots.map Slot.stepsLeft).sum) ∧
      ((∃ slots', BatchStep (m.compileFact o) slots slots') ∨
        ∃ outcomes : List Outcome, slots = outcomes.map .done) ∧
      ∀ outcomes : List Outcome, slots = outcomes.map .done →
        .ofOutcomes outcomes = m.compile o) ∧
    (m.compile o).merged m.facts.names = m.facts.values.map (m.compileFact o) ∧
    ((m.compile o).merged m.facts.names).map Outcome.fact = m.facts.names ∧
    m.facts.names.Nodup ∧
    (∀ name sql, (m.compile o).sqlFor name = some sql ↔
      ∃ f, m.facts.find? name = some f ∧ m.compileFact o f = .ok ⟨name, sql⟩) ∧
    (∀ name e, (m.compile o).failureFor name = some e ↔
      ∃ f, m.facts.find? name = some f ∧ m.compileFact o f = .error e) ∧
    (∀ name, (m.compile o).sqlFor name = none ∨ (m.compile o).failureFor name = none) ∧
    (∀ e ∈ (m.compile o).failures,
      e.cause.facts ≠ [] ∧ ∀ name ∈ e.cause.facts, name = e.fact) ∧
    ((m.compile o).isSuccess = true ↔
      (m.compile o).compiled.map CompiledFact.name = m.facts.names) := by
  have hmerged : (m.compile o).merged m.facts.names = m.facts.values.map (m.compileFact o) := by
    rw [← h.map_fact_outcomes o]
    exact Report.merged_ofOutcomes (h.nodup_outcomes o)
  refine ⟨fun slots hslots => ⟨fun _ hstep => hstep.stepsLeft_lt, exists_batchStep_or_done _ _, ?_⟩,
    hmerged, ?_, m.facts.distinct, fun name sql => h.sqlFor_compile,
    fun name e => h.failureFor_compile, fun name => ?_, fun e he => ?_, ?_⟩
  · rintro outcomes rfl
    rw [hslots.eq_map_of_done, compile]
  · rw [hmerged, h.map_fact_outcomes]
  · cases hsql : (m.compile o).sqlFor name with
    | none => exact .inl rfl
    | some sql =>
      refine .inr (Option.eq_none_iff_forall_ne_some.2 fun e he => ?_)
      obtain ⟨f, hf, hok⟩ := h.sqlFor_compile.1 hsql
      obtain ⟨f', hf', herror⟩ := h.failureFor_compile.1 he
      obtain rfl : f = f' := Option.some.inj (hf.symm.trans hf')
      rw [hok] at herror
      cases herror
  · obtain ⟨f, -, herror⟩ := mem_failures_compile.1 he
    exact facts_of_compileFact herror
  · rw [← h.map_fact_outcomes o]
    exact Report.isSuccess_iff_map_name

/-- A fact that compiles. -/
def tourOrders : Fact where
  name := "fact_orders"
  grain := ["order_id"]
  foreignKeys := ["customer_id"]

/-- A fact with a key column that two dimensions share. -/
def tourAreas : Fact where
  name := "fact_areas"
  grain := ["row_no"]
  foreignKeys := ["area_id"]

/-- The two facts with their dimensions. -/
def tour : Model := (territory.addFact tourOrders).addFact tourAreas

/-- The second fact is compiled before the first one is taken up. -/
theorem tour_report : tour.Built ∧
    (∃ outcomes : List Outcome,
      BatchReaches (tour.compileFact {}) tour.facts.values (outcomes.map .done) ∧
      .ofOutcomes outcomes = tour.compile {}) ∧
    ((tour.compile {}).merged tour.facts.names).map Outcome.fact = ["fact_orders", "fact_areas"] ∧
    (tour.compile {}).failureFor "fact_orders" = none ∧
    (tour.compile {}).isSuccess = false := by
  have hbuilt : tour.Built :=
    .addFact _ (.addFact _ (.addDimension _ (.addDimension _ (.addDimension _ .empty))))
  obtain ⟨hbatch, -, hnames, -, -, -, hboth, -, hsuccess⟩ := hbuilt.report_of_any_schedule {}
  have hrun : BatchReaches (tour.compileFact {}) [tourOrders, tourAreas]
      ([tour.compileFact {} tourOrders, tour.compileFact {} tourAreas].map .done) :=
    (((Relation.ReflTransGen.refl.tail (.start [.waiting tourOrders] [] tourAreas)).tail
      (.finish [.waiting tourOrders] [] tourAreas)).tail
      (.start [] [.done (tour.compileFact {} tourAreas)] tourOrders)).tail
      (.finish [] [.done (tour.compileFact {} tourAreas)] tourOrders)
  have hvalues : tour.facts.values = [tourOrders, tourAreas] := by decide +kernel
  rw [← hvalues] at hrun
  refine ⟨hbuilt, ⟨_, hrun, (hbatch _ hrun).2.2 _ rfl⟩, hnames.trans (by decide +kernel), ?_, ?_⟩
  · have hfound : (tour.compile {}).sqlFor "fact_orders" ≠ none := by decide +kernel
    exact (hboth "fact_orders").resolve_left hfound
  · rw [Bool.eq_false_iff, ne_eq, hsuccess]
    decide +kernel

end Model
end FactViews
