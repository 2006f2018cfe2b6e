import FactViews.Proofs.PipelineRuns

/-! # The order of passes

Every pass takes one kind of query and gives a fact query of the same table (`Pass.run_cases`). A
run is therefore made of the runs of its parts, and its failure is that of the first pass that
refuses what the passes before it have made. On a base query only a promotion can come first, and
it can come nowhere else; on a fact query it can come nowhere at all. -/

namespace FactViews

theorem FactQuery.fromTable_of_bindJoins {q r : FactQuery} {m : Model}
    (h : q.bindJoins m = .ok r) : r.fromTable = q.fromTable := by
  rw [bindJoins_eq_map] at h
  cases hkeys : q.keyDimensions m q.foreignKeys with
  | error e =>
    rw [hkeys] at h
    cases h
  | ok bound =>
    rw [hkeys] at h
    cases h
    rfl

namespace Pass

/-- The kind of query that a pass takes. -/
def input : Pass → QueryKind
  | .normalize => .base
  | .bindAggregation _ => .fact
  | .bindJoins _ => .fact

theorem input_of_ne_normalize {p : Pass} (h : p ≠ .normalize) : p.input = .fact := by
  cases p with
  | normalize => exact (h rfl).elim
  | bindAggregation | bindJoins => rfl

theorem run_of_kind_ne {p : Pass} {q : Query} (h : q.kind ≠ p.input) :
    p.run q = .error (.wrongKind p.kind p.input q.kind) := by
  cases p with
  | normalize =>
    cases q with
    | base b => exact (h rfl).elim
    | fact f => rfl
  | bindAggregation | bindJoins =>
    cases q with
    | base b => rfl
    | fact f => exact (h rfl).elim

/-- The three ways in which a pass ends. -/
theorem run_cases (p : Pass) (q : Query) :
    (q.kind ≠ p.input ∧ p.run q = .error (.wrongKind p.kind p.input q.kind)) ∨
    (q.kind = p.input ∧ ∃ m k, p = .bindJoins m ∧ p.run q = .error (.unboundKey k)) ∨
    (q.kind = p.input ∧ ∃ f, p.run q = .ok (.fact f) ∧ f.fromTable = q.fromTable) := by
  by_cases hkind : q.kind = p.input
  · right
    cases q with
    | base b =>
      cases p with
      | normalize => exact .inr ⟨rfl, b.promote, rfl, rfl⟩
      | bindAggregation | bindJoins => cases hkind
    | fact f =>
      cases p with
      | normalize => cases hkind
      | bindAggregation plan => exact .inr ⟨rfl, plan.bind f, rfl, rfl⟩
      | bindJoins m =>
        cases hjoins : f.bindJoins m with
        | error k => exact .inl ⟨rfl, m, k, rfl, by simp only [run, hjoins]⟩
        | ok f' =>
          exact .inr ⟨rfl, f', by simp only [run, hjoins], FactQuery.fromTable_of_bindJoins hjoins⟩
  · exact .inl ⟨hkind, run_of_kind_ne hkind⟩

end Pass

namespace Pipeline
variable {ps pre post : Pipeline} {q r : Query}

theorem run_cons_of_ok {p : Pass} (h : p.run q = .ok r) : run (p :: ps) q = run ps r := by
  rw [run, h]

theorem run_cons_of_error {p : Pass} (h : p.run q = .error cause) :
    run (p :: ps) q = .error ⟨q.fromTable, p.kind, cause⟩ := by
  rw [run, h]

/-- A failure stops a run; otherwise the rest goes on from what has been made. -/
theorem run_append (ps qs : Pipeline) (q : Query) :
    run (ps ++ qs) q = (run ps q).bind (run qs) := by
  induction ps generalizing q with
  | nil => rfl
  | cons p ps ih =>
    cases hp : p.run q with
    | error cause =>
      rw [List.cons_append, run_cons_of_error hp, run_cons_of_error hp]
      rfl
    | ok r => rw [List.cons_append, run_cons_of_ok hp, run_cons_of_ok hp, ih]

/-- A run with at least one pass ends with a fact query, and no run changes the table. -/
theorem kind_of_run (h : run ps q = .ok r) :
    (ps = [] ∧ r = q ∨ ps ≠ [] ∧ r.kind = .fact) ∧ r.fromTable = q.fromTable := by
  induction ps generalizing q with
  | nil =>
    cases h
    exact ⟨.inl ⟨rfl, rfl⟩, rfl⟩
  | cons p ps ih =>
    rcases p.run_cases q with ⟨-, hp⟩ | ⟨-, m, k, -, hp⟩ | ⟨-, f, hp, htable⟩
    · rw [run_cons_of_error hp] at h
      cases h
    · rw [run_cons_of_error hp] at h
      cases h
    · rw [run_cons_of_ok hp] at h
      obtain ⟨hcases, hfrom⟩ := ih h
      refine ⟨.inr ⟨List.cons_ne_nil _ _, ?_⟩, hfrom.trans htable⟩
      rcases hcases with ⟨-, rfl⟩ | ⟨-, hkind⟩
      · rfl
      · exact hkind

/-- `p` is the first pass of a run that fails: it refuses what the passes before it have made. -/
def FirstFailure (ps : Pipeline) (q : Query) (p : Pass) (cause : PassError) : Prop :=
  ∃ pre post r, ps = pre ++ p :: post ∧ run pre q = .ok r ∧ p.run r = .error cause

theorem FirstFailure.mem (h : FirstFailure ps q p cause) : p ∈ ps := by
  obtain ⟨pre, post, r, rfl, -, -⟩ := h
  simp

theorem run_eq_error_iff {e : PipelineError} :
    run ps q = .error e ↔
      ∃ p, FirstFailure ps q p e.cause ∧ e.fact = q.fromTable ∧ e.pass = p.kind := by
  constructor
  · intro h
    induction ps generalizing q with
    | nil => cases h
    | cons p ps ih =>
      cases hp : p.run q with
      | error cause =>
        rw [run_cons_of_error hp] at h
        cases h
        exact ⟨p, ⟨[], ps, q, rfl, rfl, hp⟩, rfl, rfl⟩
      | ok r =>
        rw [run_cons_of_ok hp] at h
        obtain ⟨p', ⟨pre, post, r', rfl, hpre, hfail⟩, hfact, hpass⟩ := ih h
        have hone : run [p] q = .ok r := run_cons_of_ok hp
        refine ⟨p', ⟨p :: pre, post, r', rfl, ?_, hfail⟩, ?_, hpass⟩
        · rw [run_cons_of_ok hp, hpre]
        · rw [hfact, (kind_of_run hone).2]
  · rintro ⟨p, ⟨pre, post, r, rfl, hpre, hfail⟩, hfact, hpass⟩
    rw [run_append, hpre]
    obtain ⟨fact, pass, cause⟩ := e
    obtain rfl : fact = r.fromTable := hfact.trans (kind_of_run hpre).2.symm
    obtain rfl : pass = p.kind := hpass
    exact run_cons_of_error hfail

/-- What a run makes of a fact query when no pass of it is a promotion: only a join can stop it. -/
theorem run_fact_of_notMem (h : .normalize ∉ ps) (f : FactQuery) :
    (∃ f', run ps (.fact f) = .ok (.fact f')) ∨
    ∃ m k, .bindJoins m ∈ ps ∧
      run ps (.fact f) = .error ⟨f.fromTable, .bindJoins, .unboundKey k⟩ := by
  cases hrun : run ps (.fact f) with
  | ok r =>
    refine .inl ?_
    cases r with
    | fact f' => exact ⟨f', rfl⟩
    | base b =>
      rcases (kind_of_run hrun).1 with ⟨-, hr⟩ | ⟨-, hkind⟩
      · cases hr
      · cases hkind
  | error e =>
    obtain ⟨p, hfirst, hfact, hpass⟩ := run_eq_error_iff.1 hrun
    have hmem : p ∈ ps := hfirst.mem
    obtain ⟨before, after, r, -, hbefore, hfail⟩ := hfirst
    have hne : p ≠ .normalize := fun hp => h (hp ▸ hmem)
    have hkind : r.kind = .fact := by
      rcases (kind_of_run hbefore).1 with ⟨-, rfl⟩ | ⟨-, hkind⟩
      · rfl
      · exact hkind
    -- the kind of query is right, so the pass can only be a join with an unbound key
    rcases p.run_cases r with ⟨hwrong, -⟩ | ⟨-, m, k, rfl, hk⟩ | ⟨-, f', hok, -⟩
    · exact (hwrong (hkind.trans (Pass.input_of_ne_normalize hne).symm)).elim
    · rw [hk] at hfail
      obtain ⟨fact, pass, cause⟩ := e
      cases hfail
      cases hfact
      cases hpass
      exact .inr ⟨m, k, hmem, rfl⟩
    · rw [hok] at hfail
      cases hfail

/-- What becomes of a run when a promotion meets a fact query after the given passes: it fails
there, unless a join among these passes has failed before. -/
def StopsAtNormalize (pre : Pipeline) (q : Query) (result : Except PipelineError Query) : Prop :=
  (∃ r, run pre q = .ok r) ∧
    result = .error ⟨q.fromTable, .normalize, .wrongKind .normalize .base .fact⟩ ∨
  ∃ m k, .bindJoins m ∈ pre ∧
    run pre q = .error ⟨q.fromTable, .bindJoins, .unboundKey k⟩ ∧
    result = .error ⟨q.fromTable, .bindJoins, .unboundKey k⟩

theorem stopsAtNormalize_fact (hpre : .normalize ∉ pre) (post : Pipeline) (f : FactQuery) :
    StopsAtNormalize pre (.fact f) (run (pre ++ .normalize :: post) (.fact f)) := by
  rcases run_fact_of_notMem hpre f with ⟨f', hok⟩ | ⟨m, k, hmem, herror⟩
  · refine .inl ⟨⟨_, hok⟩, ?_⟩
    have hfail : run (.normalize :: post) (.fact f') =
        .error ⟨f'.fromTable, .normalize, .wrongKind .normalize .base .fact⟩ := rfl
    rw [run_append, hok, ← (kind_of_run hok).2]
    exact hfail
  · refine .inr ⟨m, k, hmem, herror, ?_⟩
    rw [run_append, herror]
    rfl

/-- Promotion makes a fact query of the same table, so a second one meets a fact query. -/
theorem stopsAtNormalize_base (hpre : .normalize ∉ pre) (post : Pipeline) (b : BaseQuery) :
    StopsAtNormalize (.normalize :: pre) (.base b)
      (run (.normalize :: (pre ++ .normalize :: post)) (.base b)) := by
  have hpromote : Pass.run .normalize (.base b) = .ok (.fact b.promote) := rfl
  rw [run_cons_of_ok hpromote]
  rcases stopsAtNormalize_fact hpre post b.promote with
    ⟨⟨r, hok⟩, hfail⟩ | ⟨m, k, hmem, herror, hfail⟩
  · exact .inl ⟨⟨r, (run_cons_of_ok hpromote).trans hok⟩, hfail⟩
  · exact .inr ⟨m, k, List.mem_cons_of_mem _ hmem, (run_cons_of_ok hpromote).trans herror, hfail⟩

theorem run_base_eq_base_iff {b b' : BaseQuery} :
    run ps (.base b) = .ok (.base b') ↔ ps = [] ∧ b' = b := by
  constructor
  · intro h
    rcases (kind_of_run h).1 with ⟨hnil, hb⟩ | ⟨-, hkind⟩
    · cases hb
      exact ⟨hnil, rfl⟩
    · cases hkind
  · rintro ⟨rfl, rfl⟩
    rfl

theorem run_base_of_binder {p : Pass} (h : p ≠ .normalize) (b : BaseQuery) :
    run (p :: ps) (.base b) = .error ⟨b.fromTable, p.kind, .wrongKind p.kind .fact .base⟩ := by
  have hinput : p.input = .fact := Pass.input_of_ne_normalize h
  have hkind : (Query.base b).kind ≠ p.input := by
    rw [hinput]
    exact nofun
  rw [run_cons_of_error (Pass.run_of_kind_ne hkind), hinput]
  rfl

/-- A run that makes a fact query of a base query promotes it first and never again. -/
theorem exists_normalize_cons {b : BaseQuery} {f : FactQuery}
    (h : run ps (.base b) = .ok (.fact f)) :
    ∃ rest, ps = .normalize :: rest ∧ .normalize ∉ rest := by
  cases ps with
  | nil => cases h
  | cons p rest =>
    by_cases hp : p = .normalize
    · subst hp
      refine ⟨rest, rfl, fun hmem => ?_⟩
      obtain ⟨pre, post, rfl, hpre⟩ := List.eq_append_cons_of_mem hmem
      rcases stopsAtNormalize_base hpre post b with ⟨-, hfail⟩ | ⟨_, _, -, -, hfail⟩
      · rw [h] at hfail
        cases hfail
      · rw [h] at hfail
        cases hfail
    · rw [run_base_of_binder hp] at h
      cases h

/-- Runs compose, and a failure names the table of the query and the first pass that fails. A base
query stays one only if there is no pass at all; it becomes a fact query only if its promotion is
the first pass and no later one; a binding pass that comes first fails, and so does a second
promotion, unless a join has failed before it. A promotion of a fact query fails likewise. -/
theorem run_misordered (ps qs : Pipeline) :
    (∀ q, run (ps ++ qs) q = (run ps q).bind (run qs)) ∧
    (∀ q e, run ps q = .error e ↔
      ∃ p, FirstFailure ps q p e.cause ∧ e.fact = q.fromTable ∧ e.pass = p.kind) ∧
    (∀ b : BaseQuery,
      (∀ b', run ps (.base b) = .ok (.base b') ↔ ps = [] ∧ b' = b) ∧
      (∀ f, run ps (.base b) = .ok (.fact f) →
        ∃ rest, ps = .normalize :: rest ∧ .normalize ∉ rest) ∧
      (∀ p rest, ps = p :: rest → p ≠ .normalize →
        run ps (.base b) = .error ⟨b.fromTable, p.kind, .wrongKind p.kind .fact .base⟩) ∧
      (∀ rest, ps = .normalize :: rest → .normalize ∈ rest →
        ∃ pre post, rest = pre ++ .normalize :: post ∧ .normalize ∉ pre ∧
          StopsAtNormalize (.normalize :: pre) (.base b) (run ps (.base b)))) ∧
    (∀ f : FactQuery, .normalize ∈ ps →
      ∃ pre post, ps = pre ++ .normalize :: post ∧ .normalize ∉ pre ∧
        StopsAtNormalize pre (.fact f) (run ps (.fact f))) := by
  refine ⟨run_append ps qs, fun q e => run_eq_error_iff, fun b => ⟨fun b' => run_base_eq_base_iff,
    fun f => exists_normalize_cons, ?_, ?_⟩, ?_⟩
  · rintro p rest rfl hp
    exact run_base_of_binder hp b
  · rintro rest rfl hmem
    obtain ⟨pre, post, rfl, hpre⟩ := List.eq_append_cons_of_mem hmem
    exact ⟨pre, post, rfl, hpre, stopsAtNormalize_base hpre post b⟩
  · intro f hmem
    obtain ⟨pre, post, rfl, hpre⟩ := List.eq_append_cons_of_mem hmem
    exact ⟨pre, post, rfl, hpre, stopsAtNormalize_fact hpre post f⟩

theorem visits_misordered :
    run [.bindJoins .territory, .normalize] (.base visits.baseQuery) =
      .error ⟨"fact_visits", .bindJoins, .wrongKind .bindJoins .fact .base⟩ ∧
    run [.normalize, .bindAggregation {}, .normalize] (.base visits.baseQuery) =
      .error ⟨"fact_visits", .normalize, .wrongKind .normalize .base .fact⟩ ∧
    run [.bindAggregation {}, .normalize] (.fact visits.baseQuery.promote) =
      .error ⟨"fact_visits", .normalize, .wrongKind .normalize .base .fact⟩ := by
  refine ⟨?_, ?_, ?_⟩
  · have hbase := (run_misordered [.bindJoins .territory, .normalize] []).2.2.1 visits.baseQuery
    exact hbase.2.2.1 _ _ rfl (by decide)
  · have hbase := (run_misordered [.normalize, .bindAggregation {}, .normalize] []).2.2.1
      visits.baseQuery
    obtain ⟨pre, post, hrest, -, hstop⟩ := hbase.2.2.2 _ rfl (by decide)
    rcases hstop with ⟨-, hfail⟩ | ⟨m, k, hmem, -, -⟩
    · exact hfail
    · have hmem' : .bindJoins m ∈ .normalize :: (pre ++ .normalize :: post) := by
        simpa using Or.inl hmem
      simp [← hrest] at hmem'
  · obtain ⟨pre, post, hps, -, hstop⟩ :=
      (run_misordered [.bindAggregation {}, .normalize] []).2.2.2 visits.baseQuery.promote
        (by decide)
    rcases hstop with ⟨-, hfail⟩ | ⟨m, k, hmem, -, -⟩
    · exact hfail
    · have hmem' : .bindJoins m ∈ pre ++ .normalize :: post := List.mem_append_left _ hmem
      simp [← hps] at hmem'

end Pipeline
end FactViews
