import FactViews.CommandLine
import FactViews.Proofs.BatchReport
import FactViews.Proofs.Emission

/-! # What the command that compiles does

The command prepares a model and then delivers its report. If the model cannot be prepared, it ends
at once (`compileWith_cases`); otherwise the report is printed or written (`ending_deliver`). The
exit code and what is left on the disk are read off these two lemmas (`compileWith_effects`). All of
this holds for any way to load documents. -/

namespace FactViews.CommandLine

variable {load : Loader} {c : Context} {s : Settings} {a : CompileArguments} {m : Model}

/-! ## Steps of the command -/

/-- A path that an argument gives or, where there is none, a setting with its references
replaced. -/
def Available (c : Context) (argument : Option String) (setting path : String) : Prop :=
  argument = some path ∨ argument = none ∧ c.env.expand setting = .ok path

/-- A document breaks no rule, unless it is not to be checked, and has a model. -/
def Accepted (s : Settings) (a : CompileArguments) (d : Document) (m : Model) : Prop :=
  (s.compile.validate = false ∨ a.noValidate = true ∨ d.Valid) ∧ d.toModel = .ok m

/-- The model file can be found and loaded, and its document is accepted. -/
def Prepared (load : Loader) (c : Context) (s : Settings) (a : CompileArguments) (m : Model) :
    Prop :=
  ∃ path d, Available c a.model s.compile.model path ∧ load c.disk path = .ok d ∧
    Accepted s a d m

/-- The output directory can be found. -/
def OutputAt (c : Context) (s : Settings) (a : CompileArguments) (out : String) : Prop :=
  Available c a.out s.compile.outputDir out

/-- The options of the compilation; the dialect of the arguments goes before that of the
settings. -/
def optionsFor (s : Settings) (a : CompileArguments) : CompileOptions where
  dialect := a.dialect.getD s.compile.dialect
  plan := s.aggregation.binder

/-- The emitter that writes the report. -/
def emitterFor (s : Settings) (a : CompileArguments) (out : String) : Emitter where
  outDir := out
  dialect := a.dialect.getD s.compile.dialect
  options := s.emit

theorem modelPathFor_eq_ok_iff :
    modelPathFor c (applyArguments s a) a = .ok path ↔
      Available c a.model s.compile.model path := by
  rw [modelPathFor, Available]
  cases a.model with
  | some path' => simp
  | none => simp [CompileSettings.modelPath, applyArguments]

theorem outputPathFor_eq_ok_iff :
    outputPathFor c (applyArguments s a) a = .ok path ↔ OutputAt c s a path := by
  rw [outputPathFor, OutputAt, Available]
  cases a.out with
  | some path' => simp
  | none => simp [CompileSettings.outputPath, applyArguments]

theorem OutputAt.unique (h : OutputAt c s a out) (h' : OutputAt c s a out') : out = out' := by
  rw [← outputPathFor_eq_ok_iff] at h h'
  exact Except.ok.inj (h.symm.trans h')

theorem Prepared.unique (h : Prepared load c s a m) (h' : Prepared load c s a m') : m = m' := by
  obtain ⟨path, d, hpath, hload, -, hmodel⟩ := h
  obtain ⟨path', d', hpath', hload', -, hmodel'⟩ := h'
  rw [← modelPathFor_eq_ok_iff] at hpath hpath'
  cases hpath.symm.trans hpath'
  cases hload.symm.trans hload'
  exact Except.ok.inj (hmodel.symm.trans hmodel')

/-- Whether the document is refused by the check. -/
theorem validate_and_not_isEmpty_iff {d : Document} :
    ((applyArguments s a).compile.validate && !d.violations.isEmpty) = true ↔
      ¬(s.compile.validate = false ∨ a.noValidate = true ∨ d.Valid) := by
  simp [applyArguments, Document.Valid, and_assoc]

theorem compileDocument_cases (c : Context) (s : Settings) (a : CompileArguments) (d : Document) :
    ((∀ m, ¬Accepted s a d m) ∧
      ∃ notices, compileDocument c (applyArguments s a) a d = c.finish 1 notices) ∨
    ∃ m, Accepted s a d m ∧ compileDocument c (applyArguments s a) a d =
      deliver c (applyArguments s a) a (m.compile (optionsFor s a)) := by
  rw [compileDocument]
  split
  · next hrefused => exact .inl ⟨fun m h => validate_and_not_isEmpty_iff.1 hrefused h.1, _, rfl⟩
  · next hpassed =>
    have hvalid := Decidable.not_not.1 (mt validate_and_not_isEmpty_iff.2 hpassed)
    cases hmodel : d.toModel with
    | error fault =>
      refine .inl ⟨fun m h => ?_, _, rfl⟩
      cases hmodel.symm.trans h.2
    | ok m => exact .inr ⟨m, ⟨hvalid, hmodel⟩, rfl⟩

/-- The command ends at once if no model can be prepared; otherwise it delivers the report. -/
theorem compileWith_cases (load : Loader) (c : Context) (s : Settings) (a : CompileArguments) :
    ((∀ m, ¬Prepared load c s a m) ∧ ∃ notices, compileWith load c s a = c.finish 1 notices) ∨
    ∃ m, Prepared load c s a m ∧
      compileWith load c s a = deliver c (applyArguments s a) a (m.compile (optionsFor s a)) := by
  cases hpath : modelPathFor c (applyArguments s a) a with
  | error fault =>
    refine .inl ⟨?_, _, by simp only [compileWith, hpath]; rfl⟩
    rintro m ⟨path, d, havailable, -⟩
    rw [modelPathFor_eq_ok_iff.2 havailable] at hpath
    cases hpath
  | ok path =>
    -- whatever else prepares a model starts from the same file
    have hunique : ∀ {path'}, Available c a.model s.compile.model path' → path' = path := by
      intro path' havailable
      rw [modelPathFor_eq_ok_iff.2 havailable] at hpath
      exact Except.ok.inj hpath
    cases hload : load c.disk path with
    | error fault =>
      refine .inl ⟨?_, _, by simp only [compileWith, hpath, hload]; rfl⟩
      rintro m ⟨path', d, havailable, hload', -⟩
      rw [hunique havailable, hload] at hload'
      cases hload'
    | ok d =>
      have hstep : compileWith load c s a = compileDocument c (applyArguments s a) a d := by
        simp only [compileWith, hpath, hload]
      rw [hstep]
      rcases compileDocument_cases c s a d with ⟨hno, hend⟩ | ⟨m, haccepted, hdeliver⟩
      · refine .inl ⟨?_, hend⟩
        rintro m ⟨path', d', havailable, hload', haccepted⟩
        rw [hunique havailable, hload] at hload'
        exact hno m (Except.ok.inj hload' ▸ haccepted)
      · exact .inr ⟨m, ⟨path, d, modelPathFor_eq_ok_iff.1 hpath, hload, haccepted⟩, hdeliver⟩

/-- How the command ends. -/
inductive Ending (load : Loader) (c : Context) (s : Settings) (a : CompileArguments) :
    Outcome → Prop where
  /-- There is no model, or no directory to write its report to. -/
  | stopped {notices : List Notice} :
    ((∀ m, ¬Prepared load c s a m) ∨ a.stdout = false ∧ ∀ out, ¬OutputAt c s a out) →
    Ending load c s a (c.finish 1 notices)
  | printed {m : Model} {notices : List Notice} {text : String} :
    Prepared load c s a m → a.stdout = true →
    Ending load c s a (c.finish (reportExit (m.compile (optionsFor s a))) notices text)
  /-- Writing the report failed. -/
  | unwritten {m : Model} {out : String} {err : EmitError} {o : Outcome} :
    Prepared load c s a m → a.stdout = false → OutputAt c s a out →
    (emitterFor s a out).write c.disk (m.compile (optionsFor s a)) = (o.disk, .error err) →
    o.exit = 1 → Ending load c s a o
  | written {m : Model} {out : String} {manifest : Manifest} {o : Outcome} :
    Prepared load c s a m → a.stdout = false → OutputAt c s a out →
    (emitterFor s a out).write c.disk (m.compile (optionsFor s a)) = (o.disk, .ok manifest) →
    o.exit = reportExit (m.compile (optionsFor s a)) → Ending load c s a o

theorem ending_writeReport (hm : Prepared load c s a m) (hfiles : a.stdout = false)
    (hout : OutputAt c s a out) (notices : List Notice) :
    Ending load c s a
      (writeReport c (emitterFor s a out) (m.compile (optionsFor s a)) notices) := by
  rw [writeReport]
  split
  · next heq => exact .unwritten hm hfiles hout heq rfl
  · next heq => exact .written hm hfiles hout heq rfl

theorem ending_deliver (hm : Prepared load c s a m) :
    Ending load c s a (deliver c (applyArguments s a) a (m.compile (optionsFor s a))) := by
  rw [deliver]
  split
  · next hstdout => exact .printed hm hstdout
  · next hstdout =>
    have hfiles : a.stdout = false := Bool.eq_false_iff.2 hstdout
    split
    · next fault hpath =>
      refine .stopped (.inr ⟨hfiles, fun out hout => ?_⟩)
      cases hpath.symm.trans (outputPathFor_eq_ok_iff.2 hout)
    · next out hpath => exact ending_writeReport hm hfiles (outputPathFor_eq_ok_iff.1 hpath) _

theorem ending_compileWith (load : Loader) (c : Context) (s : Settings) (a : CompileArguments) :
    Ending load c s a (compileWith load c s a) := by
  rcases compileWith_cases load c s a with ⟨hno, notices, hend⟩ | ⟨m, hm, hdeliver⟩
  · rw [hend]
    exact .stopped (.inl hno)
  · rw [hdeliver]
    exact ending_deliver hm

theorem reportExit_eq_zero_iff {r : Report} : reportExit r = 0 ↔ r.isSuccess = true := by
  rw [reportExit]
  split
  · simp [*]
  · simp [*]

/-! ## Exit code and disk -/

/-- What the command does with the disk and with which code it ends. -/
structure CompileEffects (load : Loader) (c : Context) (s : Settings) (a : CompileArguments) :
    Prop where
  /-- It succeeds exactly if a model can be prepared, all its facts compile, and the report can be
  printed or written. -/
  success : (compileWith load c s a).exit = 0 ↔ ∃ m, Prepared load c s a m ∧
    (∀ f ∈ m.facts.values, ∃ cf, m.compileFact (optionsFor s a) f = .ok cf) ∧
    (a.stdout = true ∨ ∃ out disk manifest, OutputAt c s a out ∧
      (emitterFor s a out).write c.disk (m.compile (optionsFor s a)) = (disk, .ok manifest))
  /-- It fails with the code 1. -/
  failure : (compileWith load c s a).exit ≠ 0 → (compileWith load c s a).exit = 1
  /-- The disk stays as it is if the report is printed or if nothing is to be written. -/
  frame : a.stdout = true ∨ (∀ m, ¬Prepared load c s a m) ∨ (∀ out, ¬OutputAt c s a out) →
    (compileWith load c s a).disk = c.disk
  /-- What compiled is written, also if other facts failed. -/
  written : ∀ m out disk manifest, a.stdout = false → Prepared load c s a m → OutputAt c s a out →
    (emitterFor s a out).write c.disk (m.compile (optionsFor s a)) = (disk, .ok manifest) →
    (compileWith load c s a).disk = disk ∧
    ((compileWith load c s a).exit = 0 ↔ (m.compile (optionsFor s a)).failures = []) ∧
    ∀ f ∈ m.facts.values, ∀ cf, m.compileFact (optionsFor s a) f = .ok cf →
      disk.entryAt ((emitterFor s a out).path f.name) =
        .ok (.file ((emitterFor s a out).content cf).toUTF8)
  /-- After a success every fact has its file, and the manifest lists no failure. -/
  complete : a.stdout = false → (compileWith load c s a).exit = 0 →
    ∃ m out manifest, Prepared load c s a m ∧ OutputAt c s a out ∧
      (emitterFor s a out).write c.disk (m.compile (optionsFor s a)) =
        ((compileWith load c s a).disk, .ok manifest) ∧
      manifest.failures = [] ∧
      (s.emit.manifest = true →
        (compileWith load c s a).disk.entryAt (emitterFor s a out).manifestPath =
          .ok (.file manifest.text.toUTF8)) ∧
      ∀ f ∈ m.facts.values, ∃ cf, m.compileFact (optionsFor s a) f = .ok cf ∧
        (compileWith load c s a).disk.entryAt ((emitterFor s a out).path f.name) =
          .ok (.file ((emitterFor s a out).content cf).toUTF8)
  /-- A log filter that cannot be used changes nothing of this. -/
  logging : settingsFor c a = .ok s →
    (compile load c a).exit = (compileWith load c s a).exit ∧
      (compile load c a).disk = (compileWith load c s a).disk ∧
      (compile load c a).stdout = (compileWith load c s a).stdout

theorem Prepared.built (h : Prepared load c s a m) : m.Built := by
  obtain ⟨path, d, -, -, -, hmodel⟩ := h
  exact .lowered hmodel

theorem reportExit_compile_eq_zero_iff {o : CompileOptions} :
    reportExit (m.compile o) = 0 ↔ ∀ f ∈ m.facts.values, ∃ cf, m.compileFact o f = .ok cf := by
  rw [reportExit_eq_zero_iff, Model.isSuccess_compile_iff]

namespace Ending
variable {o : Outcome}

theorem exit_eq_zero_iff (h : Ending load c s a o) :
    o.exit = 0 ↔ ∃ m, Prepared load c s a m ∧
      (∀ f ∈ m.facts.values, ∃ cf, m.compileFact (optionsFor s a) f = .ok cf) ∧
      (a.stdout = true ∨ ∃ out disk manifest, OutputAt c s a out ∧
        (emitterFor s a out).write c.disk (m.compile (optionsFor s a)) = (disk, .ok manifest)) := by
  cases h with
  | stopped hno =>
    refine ⟨nofun, ?_⟩
    rintro ⟨m, hm, -, hdelivered⟩
    rcases hno with hno | ⟨hfiles, hno⟩
    · exact (hno m hm).elim
    · rcases hdelivered with hstdout | ⟨out, -, -, hout, -⟩
      · cases hfiles.symm.trans hstdout
      · exact (hno out hout).elim
  | printed hm hstdout =>
    refine reportExit_compile_eq_zero_iff.trans ⟨fun hall => ⟨_, hm, hall, .inl hstdout⟩, ?_⟩
    rintro ⟨m', hm', hall, -⟩
    cases hm.unique hm'
    exact hall
  | unwritten hm hfiles hout hwrite hexit =>
    rw [hexit]
    refine ⟨nofun, ?_⟩
    rintro ⟨m', hm', -, hstdout | ⟨out', disk, manifest, hout', hwrite'⟩⟩
    · cases hfiles.symm.trans hstdout
    · cases hm.unique hm'
      cases hout.unique hout'
      cases hwrite.symm.trans hwrite'
  | written hm hfiles hout hwrite hexit =>
    rw [hexit]
    refine reportExit_compile_eq_zero_iff.trans
      ⟨fun hall => ⟨_, hm, hall, .inr ⟨_, _, _, hout, hwrite⟩⟩, ?_⟩
    rintro ⟨m', hm', hall, -⟩
    cases hm.unique hm'
    exact hall

theorem exit_eq_one (h : Ending load c s a o) (hexit : o.exit ≠ 0) : o.exit = 1 := by
  have hreport : ∀ r : Report, reportExit r ≠ 0 → reportExit r = 1 := by
    intro r hr
    rw [reportExit] at hr ⊢
    split
    · next hsuccess => exact (hr (if_pos hsuccess)).elim
    · rfl
  cases h with
  | stopped => rfl
  | printed => exact hreport _ hexit
  | unwritten _ _ _ _ hone => exact hone
  | written _ _ _ _ heq =>
    rw [heq] at hexit ⊢
    exact hreport _ hexit

theorem disk_eq (h : Ending load c s a o)
    (hnothing : a.stdout = true ∨ (∀ m, ¬Prepared load c s a m) ∨ (∀ out, ¬OutputAt c s a out)) :
    o.disk = c.disk := by
  cases h with
  | stopped => rfl
  | printed => rfl
  | unwritten hm hfiles hout | written hm hfiles hout =>
    rcases hnothing with hstdout | hno | hno
    · cases hfiles.symm.trans hstdout
    · exact (hno _ hm).elim
    · exact (hno _ hout).elim

/-- The way the command ends when the report is written. -/
theorem of_write (h : Ending load c s a o) (hfiles : a.stdout = false) (hm : Prepared load c s a m)
    (hout : OutputAt c s a out)
    (hwrite : (emitterFor s a out).write c.disk (m.compile (optionsFor s a)) =
      (disk, .ok manifest)) :
    o.disk = disk ∧ o.exit = reportExit (m.compile (optionsFor s a)) := by
  cases h with
  | stopped hno =>
    rcases hno with hno | ⟨-, hno⟩
    · exact (hno m hm).elim
    · exact (hno out hout).elim
  | printed _ hstdout => cases hfiles.symm.trans hstdout
  | unwritten hm' _ hout' hwrite' =>
    cases hm.unique hm'
    cases hout.unique hout'
    cases hwrite.symm.trans hwrite'
  | written hm' _ hout' hwrite' hexit =>
    cases hm.unique hm'
    cases hout.unique hout'
    cases hwrite.symm.trans hwrite'
    exact ⟨rfl, hexit⟩

end Ending

/-- The file of a fact that compiled is found when the report of its model is written. -/
theorem entryAt_of_compileFact {e : Emitter} {d d' : Disk} {o : CompileOptions} {f : Fact}
    (hm : m.Built) (hwrite : e.write d (m.compile o) = (d', .ok manifest))
    (hf : f ∈ m.facts.values) (hcf : m.compileFact o f = .ok cf) :
    d'.entryAt (e.path f.name) = .ok (.file (e.content cf).toUTF8) := by
  have hcompiled : cf ∈ (m.compile o).compiled :=
    Report.mem_compiled_ofOutcomes.2 (hcf ▸ List.mem_map_of_mem hf)
  have hname : cf.name = f.name := by
    rw [← m.fact_compileFact o f, hcf]
    rfl
  rw [← hname]
  exact Emitter.entryAt_of_compiled (hm.nodup_compiled o) hwrite hcompiled

/-- The effects of the command, for all settings, arguments, environments and disks and for any way
to load documents. -/
theorem compileWith_effects (load : Loader) (c : Context) (s : Settings) (a : CompileArguments) :
    CompileEffects load c s a := by
  have hend := ending_compileWith load c s a
  constructor
  case success => exact hend.exit_eq_zero_iff
  case failure => exact hend.exit_eq_one
  case frame => exact hend.disk_eq
  case written =>
    intro m out disk manifest hfiles hm hout hwrite
    obtain ⟨hdisk, hexit⟩ := hend.of_write hfiles hm hout hwrite
    refine ⟨hdisk, ?_, fun f hf cf hcf => entryAt_of_compileFact hm.built hwrite hf hcf⟩
    rw [hexit, reportExit_eq_zero_iff, Report.isSuccess, List.isEmpty_iff]
  case complete =>
    intro hfiles hexit
    obtain ⟨m, hm, hall, hdelivered⟩ := hend.exit_eq_zero_iff.1 hexit
    rcases hdelivered with hstdout | ⟨out, disk, manifest, hout, hwrite⟩
    · cases hfiles.symm.trans hstdout
    · obtain ⟨rfl, -⟩ := hend.of_write hfiles hm hout hwrite
      have hfailures : (m.compile (optionsFor s a)).failures = [] :=
        List.isEmpty_iff.1 (Model.isSuccess_compile_iff.2 hall)
      refine ⟨m, out, manifest, hm, hout, hwrite, ?_,
        Emitter.entryAt_manifestPath (hm.built.nodup_compiled _) hwrite, fun f hf => ?_⟩
      · obtain ⟨-, rfl, -⟩ := Emitter.write_eq_ok_iff.1 hwrite
        exact List.map_eq_nil_iff.2 hfailures
      · obtain ⟨cf, hcf⟩ := hall f hf
        exact ⟨cf, hcf, entryAt_of_compileFact hm.built hwrite hf hcf⟩
  case logging =>
    intro hsettings
    simp only [compile, hsettings, and_self]

/-- A disk with a model file of two facts. One of them has a key that no dimension has. -/
def nightly : Context where
  disk := { root := .directory [("model.yml", .file (String.toUTF8
    ("facts:\n  fact_orders:\n    grain: [order_no]\n" ++
      "  fact_visits:\n    grain: [visit_no]\n    foreign_keys: [area_id]\n")))] }

/-- The command `compile model.yml --out out --no-validate`. -/
def unchecked : CompileArguments where
  model := some "model.yml"
  out := some "out"
  noValidate := true

/-- The model in the file. -/
def nightlyModel : Model where
  facts := .ofList [("fact_orders", { name := "fact_orders", grain := ["order_no"] }),
    ("fact_visits", { name := "fact_visits", grain := ["visit_no"], foreignKeys := ["area_id"] })]

theorem nightly_prepared : Prepared Disk.loadDocument nightly {} unchecked nightlyModel := by
  have hload : (nightly.disk.loadDocument "model.yml").toOption.map Document.toModel =
      some (.ok nightlyModel) := by decide +kernel
  cases hdocument : nightly.disk.loadDocument "model.yml" with
  | error fault =>
    rw [hdocument] at hload
    cases hload
  | ok d =>
    rw [hdocument] at hload
    exact ⟨"model.yml", d, .inl rfl, hdocument, .inr (.inl rfl), Option.some.inj hload⟩

/-- The fact that compiles is written, and the command fails because of the other one. -/
theorem nightly_written :
    (compileWith Disk.loadDocument nightly {} unchecked).exit = 1 ∧
      (compileWith Disk.loadDocument nightly {} unchecked).disk.entryAt
          "out/facts/fact_orders.sql" =
        .ok (.file "SELECT\n  order_no\nFROM fact_orders\nGROUP BY order_no".toUTF8) := by
  have heffects := compileWith_effects Disk.loadDocument nightly {} unchecked
  have hok : ((emitterFor {} unchecked "out").write nightly.disk
      (nightlyModel.compile (optionsFor {} unchecked))).2.isOk = true := by decide +kernel
  obtain ⟨disk, manifest, hwrite⟩ := Emitter.exists_eq_ok hok
  obtain ⟨hdisk, hexit, hfiles⟩ := heffects.written nightlyModel "out" disk manifest rfl
    nightly_prepared (.inl rfl) hwrite
  have hfailed : (nightlyModel.compile (optionsFor {} unchecked)).failures ≠ [] := by
    decide +kernel
  have hfile := hfiles { name := "fact_orders", grain := ["order_no"] } (by decide +kernel)
    ⟨"fact_orders", "SELECT\n  order_no\nFROM fact_orders\nGROUP BY order_no"⟩ (by decide +kernel)
  have hpath : (emitterFor {} unchecked "out").path "fact_orders" =
      "out/facts/fact_orders.sql" := by decide +kernel
  rw [hdisk, ← hpath]
  exact ⟨heffects.failure fun hzero => hfailed (hexit.1 hzero), hfile⟩

end FactViews.CommandLine
