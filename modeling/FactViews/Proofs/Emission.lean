import Mathlib.Data.List.Forall2
import Mathlib.Data.List.Nodup
import FactViews.Artifact.Emitter
import FactViews.Proofs.DiskChanges

/-! # What an emission leaves on the disk

An emission writes a list of files one after another (`write_eq_ok_iff`). A written file stays
while files are written at other places, and writing the list again changes nothing. The places
of artifacts and of the manifest are all different, so every file of an emission is there in the
end. -/

namespace FactViews
open Text

/-- A text to be written at a path, and the directory that is made for it. -/
structure OutputFile where
  directory : String
  path : String
  text : String

namespace OutputFile
variable {d d' : Disk} {file : OutputFile} {files files' : List OutputFile}

/-- Writes files one after another, up to the first failure. -/
def writeAll (d : Disk) : List OutputFile → Disk × Except EmitError Unit
  | [] => (d, .ok ())
  | file :: files =>
    match Emitter.writeFile d file.directory file.path file.text with
    | (d', .error err) => (d', .error err)
    | (d', .ok ()) => writeAll d' files

/-- The file is on a disk. -/
def OnDisk (d : Disk) (file : OutputFile) : Prop :=
  d.Stored file.directory file.path file.text

theorem writeFile_eq_ok
    (h : Emitter.writeFile d file.directory file.path file.text = (d', .ok ())) :
    d.Changed (fun loc => file.directory ≠ "" ∧ loc ∈ d.route file.directory)
      (· = d.locate file.path) d' ∧ file.OnDisk d' := by
  rw [Emitter.writeFile, Emitter.makeDirectories] at h
  cases hmake : d.makeDirectories file.directory with
  | mk d₁ outcome =>
    cases outcome with
    | error fault => simp [hmake] at h
    | ok =>
      simp only [hmake] at h
      split at h
      · cases h
      · next hwrite =>
        cases h
        obtain ⟨hdirs, hdirectory⟩ := Disk.makeDirectories_eq_ok hmake
        obtain ⟨hcheck, hnames, hold, rfl⟩ := Disk.writeText_eq_ok hwrite
        have hfile := hnames.changed_file hold file.text.toUTF8
        have hcontent := hnames.find?_put hold (.file file.text.toUTF8) (d₁.locate file.path)
        rw [if_pos rfl] at hcontent
        have hlocate := Disk.locate_congr hdirs.here file.path
        refine ⟨(hdirs.mono (fun _ => id) nofun).trans (hfile.mono nofun ?_), ?_⟩
        · intro loc hloc
          exact hloc.trans hlocate
        · exact ⟨hdirectory.mono hfile, hcheck, hnames.mono hfile, hcontent⟩

theorem OnDisk.writeFile (h : file.OnDisk d) :
    ∃ d', Emitter.writeFile d file.directory file.path file.text = (d', .ok ()) ∧
      d.Changed (fun _ => False) (fun _ => False) d' := by
  obtain ⟨d', hwrite, hchanged⟩ := h.writeText
  refine ⟨d', ?_, hchanged⟩
  simp only [Emitter.writeFile, Emitter.makeDirectories,
    Disk.makeDirectories_of_hasDirectory h.hasDirectory, hwrite]

theorem writeAll_cons_eq_ok (h : writeAll d (file :: files) = (d', .ok ())) :
    ∃ d₁, Emitter.writeFile d file.directory file.path file.text = (d₁, .ok ()) ∧
      writeAll d₁ files = (d', .ok ()) := by
  rw [writeAll] at h
  split at h
  · cases h
  · next d₁ hfirst => exact ⟨d₁, hfirst, h⟩

theorem writeAll_append (d : Disk) (files files' : List OutputFile) :
    writeAll d (files ++ files') =
      match writeAll d files with
      | (d₁, .error err) => (d₁, .error err)
      | (d₁, .ok ()) => writeAll d₁ files' := by
  induction files generalizing d with
  | nil => rfl
  | cons file files ih =>
    rw [List.cons_append, writeAll, writeAll]
    split
    · rfl
    · exact ih _

/-- Files at different places are all on the disk after they are written, and nothing else is
changed but for their directories. -/
theorem writeAll_eq_ok (hplaces : (files.map fun file => d.locate file.path).Nodup)
    (h : writeAll d files = (d', .ok ())) :
    d.Changed (fun loc => ∃ file ∈ files, file.directory ≠ "" ∧ loc ∈ d.route file.directory)
      (· ∈ files.map fun file => d.locate file.path) d' ∧ ∀ file ∈ files, file.OnDisk d' := by
  induction files generalizing d with
  | nil =>
    cases h
    exact ⟨.refl _ _ _, nofun⟩
  | cons file files ih =>
    obtain ⟨d₁, hfirst, hrest⟩ := writeAll_cons_eq_ok h
    obtain ⟨hchanged, hfile⟩ := writeFile_eq_ok hfirst
    obtain ⟨hnew, hplaces⟩ := List.nodup_cons.1 hplaces
    simp only [← Disk.locate_congr hchanged.here] at hplaces
    obtain ⟨hchanged', hfiles⟩ := ih hplaces hrest
    -- a later file has another place, so the first one stays
    have hstays : file.OnDisk d' := hfile.mono hchanged' fun hloc => hnew (by
      simpa only [Disk.locate_congr hchanged.here] using hloc)
    refine ⟨?_, List.forall_mem_cons.2 ⟨hstays, hfiles⟩⟩
    refine (hchanged.mono ?_ ?_).trans (hchanged'.mono ?_ ?_)
    · intro loc hloc
      exact ⟨file, List.mem_cons_self, hloc⟩
    · rintro loc rfl
      exact List.mem_cons_self
    · rintro loc ⟨file', hfile', hdirectory, hloc⟩
      rw [Disk.route_congr hchanged.here] at hloc
      exact ⟨file', List.mem_cons_of_mem _ hfile', hdirectory, hloc⟩
    · intro loc hloc
      simp only [Disk.locate_congr hchanged.here] at hloc
      exact List.mem_cons_of_mem _ hloc

/-- Writing files again changes nothing. -/
theorem writeAll_of_onDisk (h : ∀ file ∈ files, file.OnDisk d) :
    ∃ d', writeAll d files = (d', .ok ()) ∧ d.Changed (fun _ => False) (fun _ => False) d' := by
  induction files generalizing d with
  | nil => exact ⟨d, rfl, .refl _ _ d⟩
  | cons file files ih =>
    obtain ⟨hfile, hfiles⟩ := List.forall_mem_cons.1 h
    obtain ⟨d₁, hfirst, hchanged⟩ := hfile.writeFile
    obtain ⟨d', hrest, hchanged'⟩ := ih fun file' hfile' => (hfiles file' hfile').mono hchanged id
    refine ⟨d', ?_, hchanged.trans hchanged'⟩
    simp only [writeAll, hfirst, hrest]

end OutputFile

/-- The check of a name, read off its characters and its components. -/
theorem isPlainFileName_iff_components :
    isPlainFileName name = true ↔ '/' ∉ name.toList ∧ '\\' ∉ name.toList ∧
      ∃ part, Path.components name = [.normal part] := by
  have hseparator : (name.toList.any fun c => c = '/' || c = '\\') = true ↔
      '/' ∈ name.toList ∨ '\\' ∈ name.toList := by
    simp [and_or_left, exists_or]
  rw [isPlainFileName]
  split
  · next hsep =>
    rcases hseparator.1 hsep with hslash | hbackslash
    · simp [hslash]
    · simp [hbackslash]
  · next hsep =>
    rw [hseparator, not_or] at hsep
    split
    · next part hpart => simp [hsep, hpart]
    · next hother => simpa [hsep] using hother

namespace Emitter
variable {e : Emitter} {d d' : Disk} {r : Report} {m : Manifest}

/-- The file of a fact. -/
def factFile (e : Emitter) (f : CompiledFact) : OutputFile where
  directory := (Path.parent? (e.path f.name)).getD ""
  path := e.path f.name
  text := e.content f

/-- The file of the manifest. -/
def manifestFile (e : Emitter) (m : Manifest) : OutputFile := ⟨e.outDir, e.manifestPath, m.text⟩

/-- The files of a report in the order in which they are written. -/
def files (e : Emitter) (r : Report) : List OutputFile :=
  r.compiled.map e.factFile ++
    if e.options.manifest then [e.manifestFile (e.manifestFor r)] else []

section
-- Otherwise unfolding `writeFacts` also runs `writeFact` on a path that is not known.
attribute [local irreducible] writeFact

theorem writeFacts_cons (e : Emitter) (d : Disk) (f : CompiledFact) (fs : List CompiledFact) :
    e.writeFacts d (f :: fs) =
      match e.writeFact d f with
      | (d', .error err) => (d', .error err)
      | (d', .ok ()) => e.writeFacts d' fs := rfl

end

theorem writeFacts_eq_writeAll (e : Emitter) (d : Disk) (fs : List CompiledFact) :
    e.writeFacts d fs = OutputFile.writeAll d (fs.map e.factFile) := by
  induction fs generalizing d with
  | nil => rfl
  | cons f fs ih =>
    have hfile : writeFile d (e.factFile f).directory (e.factFile f).path (e.factFile f).text =
        e.writeFact d f := by rw [writeFact, factFile]
    rw [writeFacts_cons, List.map_cons, OutputFile.writeAll, hfile]
    cases e.writeFact d f with
    | mk d₁ outcome =>
      cases outcome with
      | error err => rfl
      | ok => exact ih d₁

theorem writeManifest_eq_writeAll (e : Emitter) (d : Disk) (m : Manifest) :
    e.writeManifest d m =
      OutputFile.writeAll d (if e.options.manifest then [e.manifestFile m] else []) := by
  rw [writeManifest]
  split
  · rw [OutputFile.writeAll, manifestFile]
    split
    · next heq => exact heq
    · next heq => exact heq
  · rfl

/-- An emission with usable names writes its files in order. -/
theorem write_of_usable (husable : e.nameError? r.compiled = none) :
    e.write d r =
      match OutputFile.writeAll d (e.files r) with
      | (d', .error err) => (d', .error err)
      | (d', .ok ()) => (d', .ok (e.manifestFor r)) := by
  rw [write, husable, files, OutputFile.writeAll_append]
  simp only [writeFacts_eq_writeAll, writeManifest_eq_writeAll]
  cases OutputFile.writeAll d (r.compiled.map e.factFile) with
  | mk d₁ outcome =>
    cases outcome with
    | error err => rfl
    | ok => rfl

theorem write_eq_ok_iff :
    e.write d r = (d', .ok m) ↔
      e.nameError? r.compiled = none ∧ m = e.manifestFor r ∧
        OutputFile.writeAll d (e.files r) = (d', .ok ()) := by
  cases husable : e.nameError? r.compiled with
  | some err => simp [write, husable]
  | none =>
    rw [write_of_usable husable]
    cases OutputFile.writeAll d (e.files r) with
    | mk d₁ outcome =>
      cases outcome with
      | error err => simp
      | ok => simp [and_comm, eq_comm]

/-! ## Places -/

/-- The directory of the artifacts. -/
def factsDir (e : Emitter) : String := Path.join e.outDir e.options.factsSubdir

theorem notMem_of_isPlainFileName (h : isPlainFileName name = true) : '/' ∉ name.toList :=
  (isPlainFileName_iff_components.1 h).1

theorem isPlainFileName_of_nameError? {fs : List CompiledFact} (h : e.nameError? fs = none)
    (hf : f ∈ fs) : isPlainFileName f.name = true := by
  rw [nameError?] at h
  split at h
  · cases h
  · next hfind => simpa using List.find?_eq_none.1 hfind f hf

theorem append_sql_ne (fact : String) (h : other.toList.getLast? ≠ some 'l') :
    fact ++ ".sql" ≠ other := by
  rintro rfl
  exact h (by simp)

theorem isName_append_sql (fact : String) : Location.IsName (fact ++ ".sql") :=
  ⟨append_sql_ne fact (by decide), append_sql_ne fact (by decide), append_sql_ne fact (by decide)⟩

theorem isName_fileName : Location.IsName Manifest.fileName :=
  ⟨by decide, by decide, by decide⟩

theorem append_sql_injective : Function.Injective (fun fact : String => fact ++ ".sql") := by
  intro a b h
  simpa using h

theorem inside_path (e : Emitter) (h : '/' ∉ fact.toList) :
    Path.Inside e.factsDir (e.path fact) (fact ++ ".sql") := by
  have hname : '/' ∉ (fact ++ ".sql").toList := by simp [h]
  rw [factsDir, path, relativePath]
  split
  · next hsub =>
    rw [hsub]
    exact (Path.inside_join e.outDir hname).join_empty
  · next hsub =>
    rw [String.append_assoc, Path.join_append_slash hsub]
    exact Path.inside_append_slash (Path.join_ne_empty hsub e.outDir) hname

theorem inside_manifestPath (e : Emitter) :
    Path.Inside e.outDir e.manifestPath Manifest.fileName :=
  Path.inside_join e.outDir (by decide)

theorem locate_path (d : Disk) (h : '/' ∉ fact.toList) :
    d.locate (e.path fact) = d.locate e.factsDir ++ [fact ++ ".sql"] :=
  Disk.locate_of_inside (e.inside_path h) (isName_append_sql fact) d

theorem locate_manifestPath (e : Emitter) (d : Disk) :
    d.locate e.manifestPath = d.locate e.outDir ++ [Manifest.fileName] :=
  Disk.locate_of_inside e.inside_manifestPath isName_fileName d

theorem locate_path_ne_manifestPath (d : Disk) (h : '/' ∉ fact.toList) :
    d.locate (e.path fact) ≠ d.locate e.manifestPath := by
  rw [locate_path d h, locate_manifestPath]
  intro heq
  have hlast := (List.append_inj' heq rfl).2
  exact append_sql_ne fact (by decide) (List.singleton_inj.1 hlast)

theorem nodup_places (d : Disk) (hnames : (r.compiled.map CompiledFact.name).Nodup)
    (hplain : ∀ f ∈ r.compiled, '/' ∉ f.name.toList) :
    (r.compiled.map fun f => d.locate (e.path f.name)).Nodup := by
  rw [List.Nodup, List.pairwise_map] at hnames ⊢
  refine hnames.imp_of_mem ?_
  intro f f' hf hf' hne heq
  rw [locate_path d (hplain f hf), locate_path d (hplain f' hf')] at heq
  have hlast := (List.append_inj' heq rfl).2
  exact hne (append_sql_injective (List.singleton_inj.1 hlast))

/-- The paths of the files of a report. -/
def paths (e : Emitter) (r : Report) : List String :=
  r.compiled.map (fun f => e.path f.name) ++
    if e.options.manifest then [e.manifestPath] else []

theorem map_path_files (e : Emitter) (r : Report) :
    (e.files r).map OutputFile.path = e.paths r := by
  rw [files, paths, List.map_append, List.map_map]
  split <;> rfl

theorem nodup_map_locate_paths (d : Disk) (hnames : (r.compiled.map CompiledFact.name).Nodup)
    (hplain : ∀ f ∈ r.compiled, '/' ∉ f.name.toList) : ((e.paths r).map d.locate).Nodup := by
  have hfacts := nodup_places (e := e) d hnames hplain
  simp only [paths, List.map_append, List.map_map, Function.comp_def]
  split
  · refine List.nodup_append.2 ⟨hfacts, List.nodup_singleton _, ?_⟩
    intro loc hloc loc' hloc'
    obtain ⟨f, hf, rfl⟩ := List.mem_map.1 hloc
    obtain rfl := List.mem_singleton.1 hloc'
    exact locate_path_ne_manifestPath d (hplain f hf)
  · rw [List.map_nil, List.append_nil]
    exact hfacts

theorem locate_manifestPath_notMem (d : Disk) (hplain : ∀ f ∈ r.compiled, '/' ∉ f.name.toList)
    (hmanifest : e.options.manifest = false) :
    d.locate e.manifestPath ∉ (e.paths r).map d.locate := by
  rw [paths, hmanifest]
  intro hloc
  simp only [Bool.false_eq_true, if_false, List.append_nil, List.map_map, Function.comp_def] at hloc
  obtain ⟨f, hf, heq⟩ := List.mem_map.1 hloc
  exact locate_path_ne_manifestPath d (hplain f hf) heq

/-- The directory of a file is on the way to it. -/
theorem route_directory_subset (d : Disk) (hfile : file ∈ e.files r) (hdir : file.directory ≠ "") :
    d.route file.directory ⊆ d.route file.path := by
  rcases List.mem_append.1 hfile with hfact | hmanifest
  · obtain ⟨f, -, rfl⟩ := List.mem_map.1 hfact
    simp only [factFile] at hdir ⊢
    cases hparent : Path.parent? (e.path f.name) with
    | none =>
      rw [hparent] at hdir
      exact (hdir rfl).elim
    | some parent => exact Disk.route_parent_subset hparent d
  · split at hmanifest
    · obtain rfl := List.mem_singleton.1 hmanifest
      exact Disk.route_subset_of_inside e.inside_manifestPath d
    · cases hmanifest

theorem notMem_of_usable (husable : e.nameError? r.compiled = none) :
    ∀ f ∈ r.compiled, '/' ∉ f.name.toList := fun _ hf =>
  notMem_of_isPlainFileName (isPlainFileName_of_nameError? husable hf)

/-- An emission changes the disk at its paths and on the way to them, and its files are there in
the end. -/
theorem changed_of_write (hnames : (r.compiled.map CompiledFact.name).Nodup)
    (h : e.write d r = (d', .ok m)) :
    d.Changed (fun loc => ∃ path ∈ e.paths r, loc ∈ d.route path)
      (· ∈ (e.paths r).map d.locate) d' ∧ ∀ file ∈ e.files r, file.OnDisk d' := by
  obtain ⟨husable, -, hwrite⟩ := write_eq_ok_iff.1 h
  have hpaths : (e.files r).map (fun file => d.locate file.path) = (e.paths r).map d.locate := by
    rw [← map_path_files, List.map_map]
    rfl
  have hplaces : ((e.files r).map fun file => d.locate file.path).Nodup :=
    hpaths ▸ nodup_map_locate_paths d hnames (notMem_of_usable husable)
  obtain ⟨hchanged, hfiles⟩ := OutputFile.writeAll_eq_ok hplaces hwrite
  rw [hpaths] at hchanged
  refine ⟨hchanged.mono ?_ fun _ => id, hfiles⟩
  rintro loc ⟨file, hfile, hdir, hloc⟩
  refine ⟨file.path, ?_, route_directory_subset d hfile hdir hloc⟩
  exact map_path_files e r ▸ List.mem_map_of_mem hfile

theorem onDisk_of_compiled (hnames : (r.compiled.map CompiledFact.name).Nodup)
    (h : e.write d r = (d', .ok m)) (hf : f ∈ r.compiled) : (e.factFile f).OnDisk d' :=
  (changed_of_write hnames h).2 _ (List.mem_append_left _ (List.mem_map_of_mem hf))

theorem entryAt_of_compiled (hnames : (r.compiled.map CompiledFact.name).Nodup)
    (h : e.write d r = (d', .ok m)) (hf : f ∈ r.compiled) :
    d'.entryAt (e.path f.name) = .ok (.file (e.content f).toUTF8) := by
  have hplain := notMem_of_usable (write_eq_ok_iff.1 h).1 f hf
  exact (onDisk_of_compiled hnames h hf).entryAt (e.inside_path hplain) (isName_append_sql f.name)

theorem entryAt_manifestPath (hnames : (r.compiled.map CompiledFact.name).Nodup)
    (h : e.write d r = (d', .ok m)) (hwanted : e.options.manifest = true) :
    d'.entryAt e.manifestPath = .ok (.file m.text.toUTF8) := by
  obtain ⟨-, rfl, -⟩ := write_eq_ok_iff.1 h
  have hfile : e.manifestFile (e.manifestFor r) ∈ e.files r := by
    refine List.mem_append_right _ ?_
    rw [if_pos hwanted]
    exact List.mem_singleton_self _
  exact ((changed_of_write hnames h).2 _ hfile).entryAt e.inside_manifestPath isName_fileName

/-! ## The disk after an emission -/

/-- An entry names the file of a fact, and its hash is that of the bytes in this file. -/
structure Describes (e : Emitter) (d d' : Disk) (f : CompiledFact) (a : ArtifactEntry) : Prop where
  fact : a.fact = f.name
  path : a.path = e.relativePath f.name
  place : d.locate (Path.join e.outDir a.path) = d.locate e.factsDir ++ [f.name ++ ".sql"]
  content : d'.find? (d.locate (Path.join e.outDir a.path)) = some (.file (e.content f).toUTF8)
  read : d'.entryAt (Path.join e.outDir a.path) = .ok (.file (e.content f).toUTF8)
  sha256 : a.sha256 = (Digest.hash (e.content f).toUTF8.data.toList).hex

/-- What an emission leaves, given the disk before and after it and the manifest it returns. -/
structure Emitted (e : Emitter) (d : Disk) (r : Report) (d' : Disk) (m : Manifest) : Prop where
  here : d'.here = d.here
  dialect : m.dialect = e.dialect
  artifacts : List.Forall₂ (e.Describes d d') r.compiled m.artifacts
  distinct : (m.artifacts.map fun a => d.locate (Path.join e.outDir a.path)).Nodup
  apart : ∀ a ∈ m.artifacts, d.locate (Path.join e.outDir a.path) ≠ d.locate e.manifestPath
  failures : m.failures = r.failures.map FactFailure.entry
  /-- The file of the manifest has its text if one is wanted, or if it had this text before. -/
  manifest : d'.find? (d.locate e.manifestPath) = some (.file m.text.toUTF8) ↔
    e.options.manifest = true ∨ d.find? (d.locate e.manifestPath) = some (.file m.text.toUTF8)
  read : e.options.manifest = true → d'.entryAt e.manifestPath = .ok (.file m.text.toUTF8)
  /-- All other files stay as they are, and there are no other new ones. -/
  files : ∀ loc ∉ (e.paths r).map d.locate, ∀ content,
    d'.find? loc = some (.file content) ↔ d.find? loc = some (.file content)
  kept : ∀ loc, d.find? loc = some .directory → d'.find? loc = some .directory
  /-- New directories are on the way to a written file, where nothing was. -/
  made : ∀ loc, d'.find? loc = some .directory → d.find? loc ≠ some .directory →
    d.find? loc = none ∧ ∃ path ∈ e.paths r, loc ∈ d.route path
  /-- The same emission again has the same result and changes nothing. -/
  again : ∃ d'', e.write d' r = (d'', .ok m) ∧ d''.here = d'.here ∧
    ∀ loc, d''.find? loc = d'.find? loc

theorem describes_entry (hf : '/' ∉ f.name.toList) (hhere : d'.here = d.here)
    (h : (e.factFile f).OnDisk d') : e.Describes d d' f (e.entry f) where
  fact := rfl
  path := rfl
  place := locate_path d hf
  content := Disk.locate_congr hhere (e.path f.name) ▸ h.content
  read := h.entryAt (e.inside_path hf) (isName_append_sql f.name)
  sha256 := rfl

/-- Files at their places make an emission succeed without a change. -/
theorem write_of_onDisk (husable : e.nameError? r.compiled = none)
    (h : ∀ file ∈ e.files r, file.OnDisk d) :
    ∃ d', e.write d r = (d', .ok (e.manifestFor r)) ∧ d'.here = d.here ∧
      ∀ loc, d'.find? loc = d.find? loc := by
  obtain ⟨d', hwrite, hchanged⟩ := OutputFile.writeAll_of_onDisk h
  refine ⟨d', write_eq_ok_iff.2 ⟨husable, rfl, hwrite⟩, hchanged.here, fun loc => ?_⟩
  rcases hchanged.entry loc with heq | ⟨hfalse, -⟩ | ⟨hfalse, -⟩
  · exact heq
  · exact hfalse.elim
  · exact hfalse.elim

theorem emitted_of_write (hnames : (r.compiled.map CompiledFact.name).Nodup)
    (h : e.write d r = (d', .ok m)) : e.Emitted d r d' m := by
  obtain ⟨husable, rfl, -⟩ := write_eq_ok_iff.1 h
  obtain ⟨hchanged, hfiles⟩ := changed_of_write hnames h
  have hplain := notMem_of_usable husable
  have hmanifest : e.options.manifest = true → (e.manifestFile (e.manifestFor r)).OnDisk d' := by
    intro hwanted
    refine hfiles _ (List.mem_append_right _ ?_)
    rw [if_pos hwanted]
    exact List.mem_singleton_self _
  constructor
  case here => exact hchanged.here
  case dialect => rfl
  case artifacts =>
    refine List.forall₂_map_right_iff.2 (List.forall₂_same.2 fun f hf => ?_)
    refine describes_entry (hplain f hf) hchanged.here (hfiles _ ?_)
    exact List.mem_append_left _ (List.mem_map_of_mem hf)
  case distinct =>
    simp only [manifestFor, entry, List.map_map, Function.comp_def]
    exact nodup_places d hnames hplain
  case apart =>
    intro a ha
    obtain ⟨f, hf, rfl⟩ := List.mem_map.1 ha
    exact locate_path_ne_manifestPath d (hplain f hf)
  case failures => rfl
  case manifest =>
    cases hwanted : e.options.manifest with
    | true =>
      have hcontent := (hmanifest hwanted).content
      rw [manifestFile, Disk.locate_congr hchanged.here] at hcontent
      exact ⟨fun _ => .inl rfl, fun _ => hcontent⟩
    | false =>
      rw [hchanged.file_iff (locate_manifestPath_notMem d hplain hwanted)]
      simp
  case read =>
    intro hwanted
    exact (hmanifest hwanted).entryAt e.inside_manifestPath isName_fileName
  case files =>
    intro loc hloc content
    exact hchanged.file_iff hloc
  case kept =>
    intro loc hloc
    exact hchanged.directory hloc
  case made =>
    intro loc hloc hnot
    exact hchanged.made hloc hnot
  case again => exact write_of_onDisk husable hfiles

/-- What an emission that succeeds gives. -/
theorem exists_eq_ok {outcome : Disk × Except EmitError Manifest} (h : outcome.2.isOk = true) :
    ∃ d m, outcome = (d, .ok m) := by
  obtain ⟨d, result⟩ := outcome
  cases result with
  | error err => cases h
  | ok m => exact ⟨d, m, rfl⟩

/-- A working directory with one file in a directory. -/
def workingTree : Disk where
  root := .directory
    [("work", .directory [("out", .directory [("notes.txt", .file "keep".toUTF8)])])]
  here := ["work"]

/-- An emitter of views whose directory is not below the output directory. -/
def sideways : Emitter where
  outDir := "out"
  dialect := .postgres
  options := { wrapView := true, terminator := true, factsSubdir := "new/../../views" }

/-- Two facts that were compiled and one that was not. -/
def daily : Report where
  compiled := [⟨"orders", "SELECT 1"⟩, ⟨"visits", "SELECT 2"⟩]
  failures := [⟨"stock", .build, .build ⟨"stock"⟩⟩]

theorem sideways_emitted :
    (daily.compiled.map CompiledFact.name).Nodup ∧
      ∃ d' m, sideways.write workingTree daily = (d', .ok m) ∧
        sideways.Emitted workingTree daily d' m := by
  have hnames : (daily.compiled.map CompiledFact.name).Nodup := by decide
  have hok : (sideways.write workingTree daily).2.isOk = true := by decide +kernel
  refine ⟨hnames, ?_⟩
  cases hwrite : sideways.write workingTree daily with
  | mk d' outcome =>
    rw [hwrite] at hok
    cases outcome with
    | error err => cases hok
    | ok m => exact ⟨d', m, rfl, emitted_of_write hnames hwrite⟩

/-- An emitter without a manifest. -/
def silent : Emitter where
  outDir := "out"
  options := { manifest := false }

/-- A disk where the manifest of an empty report was written before. -/
def archive : Disk where
  root := .directory
    [("out", .directory [("manifest.json", .file (silent.manifestFor {}).text.toUTF8)])]

/-- A manifest that is there stays, also if none is wanted. -/
theorem silent_keeps_manifest :
    ¬∀ (e : Emitter) (d : Disk) (r : Report) (d' : Disk) (m : Manifest),
      (r.compiled.map CompiledFact.name).Nodup → e.write d r = (d', .ok m) →
        (d'.find? (d.locate e.manifestPath) = some (.file m.text.toUTF8) ↔
          e.options.manifest = true) := by
  intro h
  have hlocate : archive.locate silent.manifestPath = ["out", "manifest.json"] := by
    decide +kernel
  have hiff := h silent archive {} archive (silent.manifestFor {}) List.nodup_nil rfl
  rw [hlocate] at hiff
  have hwanted : silent.options.manifest = true := hiff.1 rfl
  cases hwanted

end Emitter
end FactViews
