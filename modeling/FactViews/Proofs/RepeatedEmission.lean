import FactViews.Proofs.BatchReport
import FactViews.Proofs.Emission

/-! # Emissions into the same directory

An emission adds files and replaces them, but removes none, whether it succeeds or not
(`Disk.Extended`). So after any number of emissions a file is one that was there at the beginning
or one that an emission wrote. A fact that failed is given no file; one that an earlier emission
wrote for it stays (`file_of_failed_fact`). -/

namespace FactViews
open Text

namespace Disk
variable {d d' d'' : Disk} {written written' : Location → ByteArray → Prop}

/-- A disk that differs from another one by new directories and by files at most, each of them
written at its location with its content. -/
structure Extended (written : Location → ByteArray → Prop) (d d' : Disk) : Prop where
  changed : d.Changed (fun _ => True) (fun loc => ∃ content, written loc content) d'
  origin : ∀ loc content, d'.find? loc = some (.file content) →
    d.find? loc = some (.file content) ∨ written loc content

namespace Extended

theorem refl (written : Location → ByteArray → Prop) (d : Disk) : d.Extended written d :=
  ⟨.refl _ _ d, fun _ _ => .inl⟩

theorem mono (h : d.Extended written d')
    (hwritten : ∀ loc content, written loc content → written' loc content) :
    d.Extended written' d' := by
  refine ⟨h.changed.mono (fun _ => id) ?_, fun loc content hfile => ?_⟩
  · rintro loc ⟨content, hcontent⟩
    exact ⟨content, hwritten loc content hcontent⟩
  · exact (h.origin loc content hfile).imp_right (hwritten loc content)

theorem trans (h : d.Extended written d') (h' : d'.Extended written d'') :
    d.Extended written d'' := by
  refine ⟨h.changed.trans h'.changed, fun loc content hfile => ?_⟩
  rcases h'.origin loc content hfile with hbefore | hnew
  · exact h.origin loc content hbefore
  · exact .inr hnew

/-- A file stays a file, if only with another content. -/
theorem keeps (h : d.Extended written d') (hloc : d.find? loc = some (.file content)) :
    ∃ content', d'.find? loc = some (.file content') := by
  rcases h.changed.entry loc with heq | ⟨-, hnone, -⟩ | ⟨-, -, hfile⟩
  · exact ⟨content, heq.trans hloc⟩
  · rw [hloc] at hnone
    cases hnone
  · exact hfile

end Extended

theorem Changed.extended (h : d.Changed dirs (fun _ => False) d') : d.Extended written d' := by
  refine ⟨h.mono (fun _ _ => trivial) nofun, fun loc content hfile => .inl ?_⟩
  exact (h.file_iff id).1 hfile

theorem Names.extended {start : Location} (h : d.Names start parts loc)
    (hold : d.find? loc ≠ some .directory) (content : ByteArray) :
    d.Extended (fun loc' content' => loc' = loc ∧ content' = content)
      (d.put loc (.file content)) := by
  refine ⟨(h.changed_file hold content).mono nofun fun loc' hloc => ⟨content, hloc, rfl⟩, ?_⟩
  intro loc' content' hfile
  rw [h.find?_put hold] at hfile
  split at hfile
  · next hloc =>
    cases hfile
    exact .inr ⟨hloc, rfl⟩
  · exact .inl hfile

/-- There is nothing at a location but an empty directory, if anything. -/
def EmptyAt (d : Disk) (loc : Location) : Prop :=
  (∀ content, d.find? loc ≠ some (.file content)) ∧
    ∀ name rest, d.find? (loc ++ name :: rest) = none

theorem EmptyAt.find?_ne_file (h : d.EmptyAt loc) (hbelow : loc <+: loc') (content : ByteArray) :
    d.find? loc' ≠ some (.file content) := by
  obtain ⟨rest, rfl⟩ := hbelow
  cases rest with
  | nil =>
    rw [List.append_nil]
    exact h.1 content
  | cons name rest =>
    rw [h.2 name rest]
    exact nofun

end Disk

/-- The report of a model that was made from a document or by adding facts and dimensions. -/
def Report.OfModel (r : Report) : Prop :=
  ∃ (m : Model) (o : CompileOptions), m.Built ∧ r = m.compile o

/-! ## One emission -/

namespace OutputFile
variable {d d' : Disk} {files files' : List OutputFile}

/-- A content belongs to one of the files at its location. -/
def Puts (d : Disk) (files : List OutputFile) (loc : Location) (content : ByteArray) : Prop :=
  ∃ file ∈ files, loc = d.locate file.path ∧ content = file.text.toUTF8

theorem writeFile_extended (d : Disk) (file : OutputFile) :
    d.Extended (Puts d [file])
      (Emitter.writeFile d file.directory file.path file.text).1 := by
  have hmake := d.makeDirectories_changed file.directory
  rw [Emitter.writeFile, Emitter.makeDirectories]
  cases hdirs : d.makeDirectories file.directory with
  | mk d₁ outcome =>
    rw [hdirs] at hmake
    cases outcome with
    | error fault => exact hmake.extended
    | ok =>
      simp only
      split
      · exact hmake.extended
      · next d₂ hwrite =>
        obtain ⟨-, hnames, hold, rfl⟩ := Disk.writeText_eq_ok hwrite
        refine hmake.extended.trans ((hnames.extended hold _).mono ?_)
        rintro loc content ⟨rfl, rfl⟩
        exact ⟨file, List.mem_singleton_self file, Disk.locate_congr hmake.here file.path, rfl⟩

theorem Puts.congr (hhere : d'.here = d.here) (h : Puts d' files loc content)
    (hfiles : files ⊆ files') : Puts d files' loc content := by
  obtain ⟨file, hfile, hloc, hcontent⟩ := h
  exact ⟨file, hfiles hfile, hloc.trans (Disk.locate_congr hhere file.path), hcontent⟩

theorem writeAll_extended (d : Disk) (files : List OutputFile) :
    d.Extended (Puts d files) (writeAll d files).1 := by
  induction files generalizing d with
  | nil => exact .refl _ d
  | cons file files ih =>
    have hfirst := (writeFile_extended d file).mono
      fun _ _ h => h.congr rfl (List.cons_subset_cons file files.nil_subset)
    rw [writeAll]
    split
    · next d₁ err heq =>
      rw [heq] at hfirst
      exact hfirst
    · next d₁ heq =>
      rw [heq] at hfirst
      refine hfirst.trans ((ih d₁).mono fun _ _ h => ?_)
      exact h.congr hfirst.changed.here (List.subset_cons_self file files)

end OutputFile

namespace Emitter
variable {e : Emitter} {d d' : Disk} {r : Report} {content : ByteArray}

theorem fst_write (husable : e.nameError? r.compiled = none) :
    (e.write d r).1 = (OutputFile.writeAll d (e.files r)).1 := by
  rw [write_of_usable husable]
  split
  · next heq => rw [heq]
  · next heq => rw [heq]

/-- Whatever comes of it, an emission writes nothing but its files, and these only if the names of
its facts are usable. -/
theorem write_extended (e : Emitter) (d : Disk) (r : Report) :
    d.Extended (fun loc content =>
        e.nameError? r.compiled = none ∧ OutputFile.Puts d (e.files r) loc content)
      (e.write d r).1 := by
  cases husable : e.nameError? r.compiled with
  | some err =>
    have hrefused : e.write d r = (d, .error err) := by simp only [write, husable]
    rw [hrefused]
    exact .refl _ d
  | none =>
    rw [fst_write husable]
    exact (OutputFile.writeAll_extended d _).mono fun _ _ h => ⟨rfl, h⟩

/-- The path of an artifact ends in its extension, whatever the name of the fact. -/
theorem exists_locate_path (e : Emitter) (d : Disk) (fact : String) :
    ∃ loc last, d.locate (e.path fact) = loc ++ [last ++ ".sql"] := by
  have hpath : ∃ s, e.path fact = s ++ ".sql" := by
    have hrelative : ∃ s, e.relativePath fact = s ++ ".sql" := by
      rw [relativePath]
      split
      · exact ⟨_, rfl⟩
      · exact ⟨_, rfl⟩
    obtain ⟨s, hs⟩ := hrelative
    rw [path, hs, Path.join]
    split
    · exact ⟨s, rfl⟩
    · split
      · exact ⟨e.outDir ++ s, (String.append_assoc ..).symm⟩
      · exact ⟨e.outDir ++ "/" ++ s, (String.append_assoc ..).symm⟩
  obtain ⟨s, hs⟩ := hpath
  -- slashes in the name are cut as well, but the extension has none
  have hslash : '/' ∉ ".sql".toList := by decide
  obtain ⟨before, last, hparts⟩ := splitOn_append_of_notMem hslash s
  refine ⟨Location.descend [] (d.start (s ++ ".sql") ++ before), last, ?_⟩
  rw [hs, Disk.locate, hparts, ← List.append_assoc, Location.descend_append]
  exact Location.step_name (isName_append_sql last)

/-- What an emission puts at the place of a fact is the artifact of a fact with this place. -/
theorem artifact_of_puts (h : OutputFile.Puts d (e.files r) (d.locate (e.path fact)) content) :
    ∃ f ∈ r.compiled, d.locate (e.path f.name) = d.locate (e.path fact) ∧
      content = (e.content f).toUTF8 := by
  obtain ⟨file, hfile, hloc, hcontent⟩ := h
  rcases List.mem_append.1 hfile with hfact | hmanifest
  · obtain ⟨f, hf, rfl⟩ := List.mem_map.1 hfact
    exact ⟨f, hf, hloc.symm, hcontent⟩
  · split at hmanifest
    · obtain rfl := List.mem_singleton.1 hmanifest
      obtain ⟨loc, last, hpath⟩ := e.exists_locate_path d fact
      rw [hpath, manifestFile, locate_manifestPath] at hloc
      have hlast := List.singleton_inj.1 (List.append_inj' hloc rfl).2
      exact (append_sql_ne last (by decide) hlast).elim
    · cases hmanifest

/-! ## Many emissions -/

/-- The emitter with the same directory and options for another dialect. -/
def withDialect (e : Emitter) (dialect : Dialect) : Emitter := { e with dialect }

/-- The disk after emissions one after another, whatever comes of each of them. -/
def history (e : Emitter) (d : Disk) (calls : List (Dialect × Report)) : Disk :=
  calls.foldl (fun d call => ((e.withDialect call.1).write d call.2).1) d

theorem history_cons (e : Emitter) (d : Disk) (call : Dialect × Report)
    (calls : List (Dialect × Report)) :
    e.history d (call :: calls) = e.history ((e.withDialect call.1).write d call.2).1 calls := rfl

theorem history_append (e : Emitter) (d : Disk) (calls calls' : List (Dialect × Report)) :
    e.history d (calls ++ calls') = e.history (e.history d calls) calls' := List.foldl_append

theorem history_extended (e : Emitter) (d : Disk) (calls : List (Dialect × Report)) :
    d.Extended (fun loc content => ∃ call ∈ calls,
        (e.withDialect call.1).nameError? call.2.compiled = none ∧
          OutputFile.Puts d ((e.withDialect call.1).files call.2) loc content)
      (e.history d calls) := by
  induction calls generalizing d with
  | nil => exact .refl _ d
  | cons call calls ih =>
    have hfirst := (e.withDialect call.1).write_extended d call.2
    rw [history_cons]
    refine (hfirst.mono ?_).trans ((ih _).mono ?_)
    · intro loc content h
      exact ⟨call, List.mem_cons_self, h⟩
    · rintro loc content ⟨call', hcall', husable, hputs⟩
      exact ⟨call', List.mem_cons_of_mem _ hcall', husable,
        hputs.congr hfirst.changed.here (List.Subset.refl _)⟩

/-- One of the emissions wrote the content at the place of a fact, as the artifact of a fact that
has this place. -/
def WroteAt (e : Emitter) (d : Disk) (calls : List (Dialect × Report)) (fact : String)
    (content : ByteArray) : Prop :=
  ∃ call ∈ calls, ∃ f ∈ call.2.compiled, isPlainFileName f.name = true ∧
    d.locate (e.path f.name) = d.locate (e.path fact) ∧
    content = ((e.withDialect call.1).content f).toUTF8

theorem wroteAt_of_history {calls : List (Dialect × Report)}
    (h : (e.history d calls).find? (d.locate (e.path fact)) = some (.file content)) :
    d.find? (d.locate (e.path fact)) = some (.file content) ∨ e.WroteAt d calls fact content := by
  refine ((e.history_extended d calls).origin _ _ h).imp_right ?_
  rintro ⟨call, hcall, husable, hputs⟩
  obtain ⟨f, hf, hplace, hcontent⟩ := artifact_of_puts hputs
  exact ⟨call, hcall, f, hf, isPlainFileName_of_nameError? husable hf, hplace, hcontent⟩

/-- Facts with file names have the same place only if they have the same name. -/
theorem eq_of_locate_path_eq (h : '/' ∉ fact.toList) (h' : '/' ∉ fact'.toList)
    (heq : d.locate (e.path fact) = d.locate (e.path fact')) : fact = fact' := by
  rw [locate_path d h, locate_path d h'] at heq
  exact append_sql_injective (List.singleton_inj.1 (List.append_inj' heq rfl).2)

section FailedFacts
variable {calls : List (Dialect × Report)} {dialect : Dialect} {m : Model} {o : CompileOptions}
  {f : FactFailure} {manifest : Manifest}

/-- An emission does not touch the place of a fact that failed, if its name is a file name. -/
theorem file_iff_of_failed (hm : m.Built) (hwrite : e.write d (m.compile o) = (d', .ok manifest))
    (hf : f ∈ (m.compile o).failures) (hname : '/' ∉ f.fact.toList) :
    d'.find? (d.locate (e.path f.fact)) = some (.file content) ↔
      d.find? (d.locate (e.path f.fact)) = some (.file content) := by
  obtain ⟨hchanged, -⟩ := changed_of_write (hm.nodup_compiled o) hwrite
  obtain ⟨husable, -, -⟩ := write_eq_ok_iff.1 hwrite
  -- a file is written for a fact that compiled, which has another name, or is the manifest
  refine hchanged.file_iff fun hplace => ?_
  obtain ⟨path, hpath, hloc⟩ := List.mem_map.1 hplace
  rcases List.mem_append.1 hpath with hfact | hmanifest
  · obtain ⟨c, hc, rfl⟩ := List.mem_map.1 hfact
    exact hm.name_ne_fact hc hf (eq_of_locate_path_eq (notMem_of_usable husable c hc) hname hloc)
  · split at hmanifest
    · obtain rfl := List.mem_singleton.1 hmanifest
      exact locate_path_ne_manifestPath d hname hloc.symm
    · cases hmanifest

/-- Where an emission wrote an artifact, a file stands ever after. -/
theorem exists_file_of_wrote (hr : r.OfModel) (hwrite : e.write d r = (d', .ok manifest))
    (hfact : fact ∈ r.compiled.map CompiledFact.name) (hlater : d'.Extended written d'') :
    ∃ content, d''.entryAt (e.path fact) = .ok (.file content) := by
  obtain ⟨m, o, hm, rfl⟩ := hr
  obtain ⟨c, hc, rfl⟩ := List.mem_map.1 hfact
  obtain ⟨husable, -, -⟩ := write_eq_ok_iff.1 hwrite
  have hstored := onDisk_of_compiled (hm.nodup_compiled o) hwrite hc
  obtain ⟨content, hcontent⟩ := hlater.keeps hstored.content
  have hhere := hlater.changed.here
  have hnames := hstored.names.mono hlater.changed
  rw [← Disk.start_congr hhere, ← Disk.locate_congr hhere] at hnames
  rw [← Disk.locate_congr hhere] at hcontent
  exact ⟨content, hnames.entryAt hstored.checked
    (e.inside_path (notMem_of_usable husable c hc)) (isName_append_sql c.name) hcontent⟩

/-- A file was at the place of a fact at the beginning, outside of the output directory. -/
def Foreign (e : Emitter) (d : Disk) (fact : String) (content : ByteArray) : Prop :=
  ¬d.locate e.outDir <+: d.locate (e.path fact) ∧
    d.find? (d.locate (e.path fact)) = some (.file content)

theorem foreign_or_wroteAt (hempty : d.EmptyAt (d.locate e.outDir))
    (h : (e.history d calls).find? (d.locate (e.path fact)) = some (.file content)) :
    e.Foreign d fact content ∨ e.WroteAt d calls fact content := by
  refine (wroteAt_of_history h).imp_left fun hstart => ⟨fun hbelow => ?_, hstart⟩
  exact hempty.find?_ne_file hbelow content hstart

/-- The file of a fact that failed. When an emission succeeds after any others into the same
directory, a file at the path of a fact that failed is the artifact of a fact with this place, or
it was there from the beginning, outside of the output directory. If the name of the fact is a file
name, this emission did not touch its file, and an earlier one wrote it for a fact of the same
name; and what an earlier one wrote is still there. -/
theorem file_of_failed_fact (hempty : d.EmptyAt (d.locate e.outDir))
    (hcalls : ∀ call ∈ calls, call.2.OfModel) (hm : m.Built)
    (hwrite : (e.withDialect dialect).write (e.history d calls) (m.compile o) = (d', .ok manifest))
    (hf : f ∈ (m.compile o).failures) :
    (∀ content, d'.entryAt (e.path f.fact) = .ok (.file content) →
      e.Foreign d f.fact content ∨
        e.WroteAt d (calls ++ [(dialect, m.compile o)]) f.fact content) ∧
    (isPlainFileName f.fact = true →
      (∀ content, d'.find? (d.locate (e.path f.fact)) = some (.file content) ↔
        (e.history d calls).find? (d.locate (e.path f.fact)) = some (.file content)) ∧
      (∀ content, d'.entryAt (e.path f.fact) = .ok (.file content) →
        e.Foreign d f.fact content ∨ ∃ call ∈ calls, ∃ c ∈ call.2.compiled, c.name = f.fact ∧
          content = ((e.withDialect call.1).content c).toUTF8) ∧
      (∀ before call after, calls = before ++ call :: after →
        f.fact ∈ call.2.compiled.map CompiledFact.name →
        (∃ d₁ m₁, (e.withDialect call.1).write (e.history d before) call.2 = (d₁, .ok m₁)) →
        ∃ content, d'.entryAt (e.path f.fact) = .ok (.file content))) := by
  -- the last emission is one of the history
  have hd' : e.history d (calls ++ [(dialect, m.compile o)]) = d' := by
    rw [history_append, history_cons, hwrite]
    rfl
  have hlocate : ∀ path, (e.history d calls).locate path = d.locate path :=
    Disk.locate_congr (e.history_extended d calls).changed.here
  have hfind : ∀ content, d'.entryAt (e.path f.fact) = .ok (.file content) →
      d'.find? (d.locate (e.path f.fact)) = some (.file content) := by
    intro content hentry
    have hhere := (e.history_extended d (calls ++ [(dialect, m.compile o)])).changed.here
    rw [hd'] at hhere
    rw [← Disk.locate_congr hhere]
    exact Disk.find?_of_entryAt hentry
  refine ⟨fun content hentry => foreign_or_wroteAt hempty (hd' ▸ hfind content hentry), ?_⟩
  intro hplain
  have hname := notMem_of_isPlainFileName hplain
  have huntouched : ∀ content, d'.find? (d.locate (e.path f.fact)) = some (.file content) ↔
      (e.history d calls).find? (d.locate (e.path f.fact)) = some (.file content) := by
    intro content
    rw [← hlocate]
    exact file_iff_of_failed (e := e.withDialect dialect) hm hwrite hf hname
  refine ⟨huntouched, fun content hentry => ?_, ?_⟩
  · refine (foreign_or_wroteAt hempty ((huntouched content).1 (hfind content hentry))).imp_right ?_
    rintro ⟨call, hcall, c, hc, hc', hplace, hcontent⟩
    exact ⟨call, hcall, c, hc,
      eq_of_locate_path_eq (notMem_of_isPlainFileName hc') hname hplace, hcontent⟩
  · rintro before call after rfl hfact ⟨d₁, m₁, hearlier⟩
    -- from the earlier emission on, the rest of the history keeps its file
    have hafter : e.history d₁ (after ++ [(dialect, m.compile o)]) = d' := by
      rw [← hd', List.append_assoc, List.cons_append, e.history_append d, history_cons, hearlier]
    have hlater := e.history_extended d₁ (after ++ [(dialect, m.compile o)])
    rw [hafter] at hlater
    exact exists_file_of_wrote (e := e.withDialect call.1) (hcalls call (by simp)) hearlier hfact
      hlater

end FailedFacts

/-- An emitter of plain statements. -/
def plainFiles : Emitter where
  outDir := "out"

/-- A disk with an empty output directory. -/
def freshDisk : Disk where
  root := .directory [("out", .directory [])]

theorem freshDisk_emptyAt : freshDisk.EmptyAt (freshDisk.locate plainFiles.outDir) := by
  have hlocate : freshDisk.locate plainFiles.outDir = ["out"] := by decide +kernel
  rw [hlocate]
  exact ⟨fun _ => nofun, fun _ _ => rfl⟩

/-- A model with a fact that compiles. -/
def firstDraft : Model := Model.empty.addFact { name := "fact_orders", grain := ["order_no"] }

/-- The fact again, with a key that no dimension has. -/
def secondDraft : Model :=
  firstDraft.addFact { name := "fact_orders", grain := ["order_no"], foreignKeys := ["area_id"] }

theorem firstDraft_built : firstDraft.Built := .addFact _ .empty

theorem secondDraft_built : secondDraft.Built := .addFact _ firstDraft_built

/-- The emission of the first draft. -/
def drafts : List (Dialect × Report) := [(.generic, firstDraft.compile {})]

theorem ofModel_of_mem_drafts : ∀ call ∈ drafts, call.2.OfModel := by
  intro call hcall
  obtain rfl := List.mem_singleton.1 hcall
  exact ⟨firstDraft, {}, firstDraft_built, rfl⟩

theorem exists_write_firstDraft :
    ∃ d m, (plainFiles.withDialect .generic).write freshDisk (firstDraft.compile {}) = (d, .ok m) :=
  exists_eq_ok (by decide +kernel)

theorem exists_write_secondDraft :
    ∃ d m, (plainFiles.withDialect .generic).write (plainFiles.history freshDisk drafts)
      (secondDraft.compile {}) = (d, .ok m) :=
  exists_eq_ok (by decide +kernel)

/-- The failure of the fact in the second draft. -/
def orphanKey : FactFailure :=
  ⟨"fact_orders", .pass .bindJoins, .pipeline ⟨"fact_orders", .bindJoins,
    .unboundKey ⟨"fact_orders", "area_id", .unresolved⟩⟩⟩

/-- The file of the first draft is still there after the second one failed. -/
theorem drafts_keep_file :
    freshDisk.EmptyAt (freshDisk.locate plainFiles.outDir) ∧
      (∀ call ∈ drafts, call.2.OfModel) ∧ secondDraft.Built ∧
      orphanKey ∈ (secondDraft.compile {}).failures ∧
      ∃ d' manifest, (plainFiles.withDialect .generic).write (plainFiles.history freshDisk drafts)
          (secondDraft.compile {}) = (d', .ok manifest) ∧
        ∃ content, d'.entryAt (plainFiles.path "fact_orders") = .ok (.file content) ∧
          ∃ call ∈ drafts, ∃ c ∈ call.2.compiled, c.name = "fact_orders" ∧
            content = ((plainFiles.withDialect call.1).content c).toUTF8 := by
  have hfailed : orphanKey ∈ (secondDraft.compile {}).failures := by decide +kernel
  obtain ⟨d', manifest, hwrite⟩ := exists_write_secondDraft
  obtain ⟨-, hplain⟩ := file_of_failed_fact freshDisk_emptyAt ofModel_of_mem_drafts
    secondDraft_built hwrite hfailed
  obtain ⟨-, horigin, hstays⟩ := hplain (by decide +kernel)
  obtain ⟨content, hentry⟩ := hstays [] _ [] rfl (by decide +kernel) exists_write_firstDraft
  refine ⟨freshDisk_emptyAt, ofModel_of_mem_drafts, secondDraft_built, hfailed, d', manifest,
    hwrite, content, hentry, (horigin content hentry).resolve_left fun hforeign => ?_⟩
  have hbelow : freshDisk.locate plainFiles.outDir <+:
      freshDisk.locate (plainFiles.path "fact_orders") := by decide +kernel
  exact hforeign.1 hbelow

/-- A fact that failed can have a file that an earlier emission wrote. -/
theorem stale_file_of_failed_fact :
    ¬∀ (e : Emitter) (d : Disk) (calls : List (Dialect × Report)) (dialect : Dialect) (m : Model)
        (o : CompileOptions) (d' : Disk) (manifest : Manifest),
      d.EmptyAt (d.locate e.outDir) → (∀ call ∈ calls, call.2.OfModel) → m.Built →
      (e.withDialect dialect).write (e.history d calls) (m.compile o) = (d', .ok manifest) →
      ∀ f ∈ (m.compile o).failures, ∀ content,
        d'.entryAt (e.path f.fact) ≠ .ok (.file content) := by
  intro h
  obtain ⟨d₁, m₁, hfirst⟩ := exists_write_firstDraft
  obtain ⟨d', manifest, hwrite⟩ := exists_write_secondDraft
  have hlater := (plainFiles.withDialect .generic).write_extended
    (plainFiles.history freshDisk drafts) (secondDraft.compile {})
  rw [hwrite, drafts, history_cons, hfirst] at hlater
  have hcompiled : "fact_orders" ∈ (firstDraft.compile {}).compiled.map CompiledFact.name := by
    decide +kernel
  obtain ⟨content, hentry⟩ := exists_file_of_wrote ⟨firstDraft, {}, firstDraft_built, rfl⟩ hfirst
    hcompiled hlater
  exact h plainFiles freshDisk drafts .generic secondDraft {} d' manifest freshDisk_emptyAt
    ofModel_of_mem_drafts secondDraft_built hwrite orphanKey (by decide +kernel) content hentry

end Emitter
end FactViews
