import FactViews.Proofs.RepeatedEmission

/-! # Names that are refused

Before anything is written, an emission looks at the names of the facts that were compiled: first
whether each can be the name of a file, then, if views are written, whether each is short enough
for the dialect. The first name that fails is reported and the disk stays as it was
(`Emitter.nameError?_eq_some_iff`). The check looks at the components of a name as a path; that it
goes by the characters alone is `isPlainFileName_iff`. A name that can be the name of a file is one
component, so the file of a fact is always in the directory of the artifacts. -/

namespace FactViews
open Text

/-- A name that is no file name. -/
def Unusable (name : String) : Prop :=
  name = "" ∨ name = "." ∨ name = ".." ∨ '/' ∈ name.toList ∨ '\\' ∈ name.toList

/-- File names are the names without a separator that are a single normal component. -/
theorem not_unusable_iff :
    ¬Unusable name ↔ '/' ∉ name.toList ∧ '\\' ∉ name.toList ∧
      Path.components name = [.normal name] := by
  constructor
  · intro h
    simp only [Unusable, not_or] at h
    obtain ⟨hempty, hdot, hdots, hslash, hbackslash⟩ := h
    exact ⟨hslash, hbackslash, (Path.components_eq_normal_iff hslash).2 ⟨hempty, hdot, hdots, rfl⟩⟩
  · rintro ⟨hslash, hbackslash, hcomponents⟩
    obtain ⟨hempty, hdot, hdots, -⟩ := (Path.components_eq_normal_iff hslash).1 hcomponents
    simp only [Unusable, not_or]
    exact ⟨hempty, hdot, hdots, hslash, hbackslash⟩

/-- The check of a name goes by its characters alone. -/
theorem isPlainFileName_iff : isPlainFileName name = true ↔ ¬Unusable name := by
  rw [not_unusable_iff, isPlainFileName_iff_components]
  refine and_congr_right fun hslash => and_congr_right fun _ => ?_
  constructor
  · rintro ⟨part, hpart⟩
    obtain ⟨-, -, -, rfl⟩ := (Path.components_eq_normal_iff hslash).1 hpart
    exact hpart
  · intro hnormal
    exact ⟨name, hnormal⟩

/-- A name with more than the greatest number of bytes or characters that a dialect allows. -/
inductive Dialect.Exceeds : Dialect → String → Nat → Prop where
  | postgres {name : String} : 63 < name.utf8ByteSize → Exceeds .postgres name 63
  | mysql {name : String} : 64 < name.length → Exceeds .mysql name 64
  | tsql {name : String} : 128 < name.length → Exceeds .tsql name 128

theorem Dialect.exceeds_iff {dialect : Dialect} {name : String} {max : Nat} :
    dialect.Exceeds name max ↔ dialect.maxLength? = some max ∧ max < dialect.length name := by
  constructor
  · intro h
    cases h with
    | postgres h => exact ⟨rfl, h⟩
    | mysql h => exact ⟨rfl, h⟩
    | tsql h => exact ⟨rfl, h⟩
  · rintro ⟨hmax, hlength⟩
    cases dialect with
    | generic => cases hmax
    | duckdb => cases hmax
    | postgres =>
      cases hmax
      exact .postgres hlength
    | mysql =>
      cases hmax
      exact .mysql hlength
    | tsql =>
      cases hmax
      exact .tsql hlength

/-- The first element of a list with a property. -/
def IsFirst (p : α → Prop) (l : List α) (a : α) : Prop :=
  ∃ before after, l = before ++ a :: after ∧ p a ∧ ∀ b ∈ before, ¬p b

theorem find?_eq_some_iff_isFirst {p : α → Prop} {test : α → Bool} (h : ∀ a, test a = true ↔ p a)
    {l : List α} : l.find? test = some a ↔ IsFirst p l a := by
  rw [List.find?_eq_some_iff_append, IsFirst]
  simp only [Bool.not_eq_true', ← Bool.not_eq_true, h]
  constructor
  · rintro ⟨ha, before, after, hl, hbefore⟩
    exact ⟨before, after, hl, ha, hbefore⟩
  · rintro ⟨before, after, hl, ha, hbefore⟩
    exact ⟨ha, before, after, hl, hbefore⟩

theorem exists_isFirst_iff {p : α → Prop} {l : List α} :
    (∃ a, IsFirst p l a) ↔ ∃ a ∈ l, p a := by
  classical
  have hfind : ∀ a, l.find? (fun a => p a) = some a ↔ IsFirst p l a := fun a =>
    find?_eq_some_iff_isFirst fun a => decide_eq_true_iff
  simp only [← hfind, ← Option.isSome_iff_exists, List.find?_isSome, decide_eq_true_eq]

/-- The failures that are about names. -/
inductive EmitError.AboutName : EmitError → Prop where
  | badFileName (name : String) : AboutName (.badFileName name)
  | nameTooLong (name : String) (dialect : Dialect) (max : Nat) :
    AboutName (.nameTooLong name dialect max)

/-! ## The check -/

theorem OutputFile.writeFile_eq_error {d : Disk} {directory path text : String}
    (h : (Emitter.writeFile d directory path text).2 = .error err) :
    ∃ path' fault, err = .disk path' fault := by
  rw [Emitter.writeFile, Emitter.makeDirectories] at h
  cases hmake : d.makeDirectories directory with
  | mk d₁ outcome =>
    cases outcome with
    | error fault =>
      simp only [hmake] at h
      cases h
      exact ⟨directory, fault, rfl⟩
    | ok =>
      simp only [hmake] at h
      split at h
      · next fault _ =>
        cases h
        exact ⟨path, fault, rfl⟩
      · cases h

theorem OutputFile.writeAll_eq_error {d : Disk} {files : List OutputFile}
    (h : (writeAll d files).2 = .error err) : ∃ path fault, err = .disk path fault := by
  induction files generalizing d with
  | nil => cases h
  | cons file files ih =>
    rw [writeAll] at h
    split at h
    · next d₁ err' heq =>
      cases h
      exact writeFile_eq_error (congrArg Prod.snd heq)
    · exact ih h

namespace Emitter
variable {e : Emitter} {d : Disk} {r : Report} {err : EmitError} {fs : List CompiledFact}
  {content : ByteArray}

theorem overlong?_eq_some_iff :
    e.overlong? fs = some err ↔ e.options.wrapView = true ∧ ∃ max f,
      IsFirst (fun f => e.dialect.Exceeds f.name max) fs f ∧
        err = .nameTooLong f.name e.dialect max := by
  have hfirst : ∀ max f, e.dialect.maxLength? = some max →
      (fs.find? (fun f => max < e.dialect.length f.name) = some f ↔
        IsFirst (fun f => e.dialect.Exceeds f.name max) fs f) := by
    intro max f hmax
    refine find?_eq_some_iff_isFirst fun f => ?_
    rw [decide_eq_true_iff, Dialect.exceeds_iff, hmax]
    simp
  rw [overlong?, nameLimit?]
  cases e.options.wrapView with
  | false => simp
  | true =>
    cases hmax : e.dialect.maxLength? with
    | none =>
      simp only [if_true, reduceCtorEq, true_and, false_iff]
      rintro ⟨max, f, ⟨before, after, -, hexceeds, -⟩, -⟩
      rw [Dialect.exceeds_iff, hmax] at hexceeds
      cases hexceeds.1
    | some max =>
      simp only [if_true, true_and, Option.map_eq_some_iff, hfirst max _ hmax]
      constructor
      · rintro ⟨f, hf, rfl⟩
        exact ⟨max, f, hf, rfl⟩
      · rintro ⟨max', f, hf, rfl⟩
        obtain ⟨before, after, -, hexceeds, -⟩ := id hf
        rw [Dialect.exceeds_iff, hmax] at hexceeds
        cases hexceeds.1
        exact ⟨f, hf, rfl⟩

/-- The name that the check refuses. -/
theorem nameError?_eq_some_iff :
    e.nameError? fs = some err ↔
      (∃ f, IsFirst (Unusable ·.name) fs f ∧ err = .badFileName f.name) ∨
      ((∀ f ∈ fs, ¬Unusable f.name) ∧ e.options.wrapView = true ∧ ∃ max f,
        IsFirst (fun f => e.dialect.Exceeds f.name max) fs f ∧
          err = .nameTooLong f.name e.dialect max) := by
  have htest : ∀ f : CompiledFact, (!isPlainFileName f.name) = true ↔ Unusable f.name := by
    intro f
    rw [Bool.not_eq_true', ← Bool.not_eq_true, isPlainFileName_iff, not_not]
  have hfirst : ∀ f, fs.find? (fun f => !isPlainFileName f.name) = some f ↔
      IsFirst (Unusable ·.name) fs f := fun f => find?_eq_some_iff_isFirst htest
  rw [nameError?, ← overlong?_eq_some_iff]
  simp only [← hfirst]
  cases hfind : fs.find? fun f => !isPlainFileName f.name with
  | some f =>
    constructor
    · intro h
      cases h
      exact .inl ⟨f, rfl, rfl⟩
    · rintro (⟨f', hf', rfl⟩ | ⟨hgood, -⟩)
      · cases hf'
        rfl
      · obtain ⟨before, after, rfl, hbad, -⟩ := (hfirst f).1 hfind
        exact (hgood f (by simp) hbad).elim
  | none =>
    have hgood : ∀ f ∈ fs, ¬Unusable f.name := by
      intro f hf
      rw [← htest]
      exact List.find?_eq_none.1 hfind f hf
    constructor
    · intro h
      exact .inr ⟨hgood, h⟩
    · rintro (⟨f', hf', -⟩ | ⟨-, h⟩)
      · cases hf'
      · exact h

/-- An emission fails because of a name exactly when the check refuses it. -/
theorem write_eq_error_iff (habout : err.AboutName) :
    (e.write d r).2 = .error err ↔ e.nameError? r.compiled = some err := by
  cases husable : e.nameError? r.compiled with
  | some err' => simp [write, husable]
  | none =>
    rw [write_of_usable husable]
    simp only [reduceCtorEq, iff_false]
    intro h
    split at h
    · next d₁ err' heq =>
      cases h
      obtain ⟨path, fault, rfl⟩ := OutputFile.writeAll_eq_error (congrArg Prod.snd heq)
      cases habout
    · cases h

theorem write_eq_badFileName_iff :
    (e.write d r).2 = .error (.badFileName name) ↔
      ∃ f, IsFirst (Unusable ·.name) r.compiled f ∧ f.name = name := by
  rw [write_eq_error_iff (.badFileName name), nameError?_eq_some_iff]
  constructor
  · rintro (⟨f, hf, herr⟩ | ⟨-, -, max, f, -, herr⟩)
    · cases herr
      exact ⟨f, hf, rfl⟩
    · cases herr
  · rintro ⟨f, hf, rfl⟩
    exact .inl ⟨f, hf, rfl⟩

theorem write_eq_nameTooLong_iff {dialect : Dialect} {max : Nat} :
    (e.write d r).2 = .error (.nameTooLong name dialect max) ↔
      (∀ f ∈ r.compiled, ¬Unusable f.name) ∧ e.options.wrapView = true ∧ dialect = e.dialect ∧
        ∃ f, IsFirst (fun f => e.dialect.Exceeds f.name max) r.compiled f ∧ f.name = name := by
  rw [write_eq_error_iff (.nameTooLong name dialect max), nameError?_eq_some_iff]
  constructor
  · rintro (⟨f, -, herr⟩ | ⟨hgood, hview, max, f, hf, herr⟩)
    · cases herr
    · cases herr
      exact ⟨hgood, hview, rfl, f, hf, rfl⟩
  · rintro ⟨hgood, hview, rfl, f, hf, rfl⟩
    exact .inr ⟨hgood, hview, max, f, hf, rfl⟩

theorem fst_write_of_nameError? (h : e.nameError? r.compiled = some err) : (e.write d r).1 = d := by
  rw [write, h]

/-- Files are written in the directory of the artifacts, under the names of facts, and at the place
of the manifest. -/
theorem place_of_written (h : (e.write d r).1.find? loc = some (.file content)) :
    d.find? loc = some (.file content) ∨ loc = d.locate e.manifestPath ∨
      ∃ f ∈ r.compiled, ¬Unusable f.name ∧ loc = d.locate e.factsDir ++ [f.name ++ ".sql"] := by
  refine ((e.write_extended d r).origin loc content h).imp_right ?_
  rintro ⟨husable, file, hfile, hloc, -⟩
  rcases List.mem_append.1 hfile with hfact | hmanifest
  · obtain ⟨f, hf, rfl⟩ := List.mem_map.1 hfact
    have hname := isPlainFileName_iff.1 (isPlainFileName_of_nameError? husable hf)
    exact .inr ⟨f, hf, hname, hloc.trans (locate_path d (not_unusable_iff.1 hname).1)⟩
  · split at hmanifest
    · obtain rfl := List.mem_singleton.1 hmanifest
      exact .inl hloc
    · cases hmanifest

/-- What the check of names means for an emission. -/
structure NamesChecked (e : Emitter) (d : Disk) (r : Report) : Prop where
  badFileName_iff : (∃ name, (e.write d r).2 = .error (.badFileName name)) ↔
    ∃ f ∈ r.compiled, Unusable f.name
  badFileName : ∀ name, (e.write d r).2 = .error (.badFileName name) ↔
    ∃ f, IsFirst (Unusable ·.name) r.compiled f ∧ f.name = name
  nameTooLong_iff : (∃ name dialect max, (e.write d r).2 = .error (.nameTooLong name dialect max)) ↔
    (∀ f ∈ r.compiled, ¬Unusable f.name) ∧ e.options.wrapView = true ∧
      ∃ f ∈ r.compiled, ∃ max, e.dialect.Exceeds f.name max
  nameTooLong : ∀ name dialect max, (e.write d r).2 = .error (.nameTooLong name dialect max) ↔
    (∀ f ∈ r.compiled, ¬Unusable f.name) ∧ e.options.wrapView = true ∧ dialect = e.dialect ∧
      ∃ f, IsFirst (fun f => e.dialect.Exceeds f.name max) r.compiled f ∧ f.name = name
  /-- Nothing is written if a name is refused. -/
  unchanged : ∀ err, err.AboutName → (e.write d r).2 = .error err → (e.write d r).1 = d
  /-- The facts that failed make no difference. -/
  failures : ∀ failures err, err.AboutName →
    ((e.write d { r with failures }).2 = .error err ↔ (e.write d r).2 = .error err)
  /-- The check of a name goes by its characters or by its components. -/
  components : ∀ name, isPlainFileName name = true ↔
    '/' ∉ name.toList ∧ '\\' ∉ name.toList ∧ ∃ part, Path.components name = [.normal part]
  normal : ∀ name, ¬Unusable name → Path.components name = [.normal name]
  place : ∀ name, ¬Unusable name →
    d.locate (e.path name) = d.locate e.factsDir ++ [name ++ ".sql"]
  /-- Whatever comes of it, an emission writes files nowhere else. -/
  written : ∀ loc content, (e.write d r).1.find? loc = some (.file content) →
    d.find? loc = some (.file content) ∨ loc = d.locate e.manifestPath ∨
      ∃ f ∈ r.compiled, ¬Unusable f.name ∧ loc = d.locate e.factsDir ++ [f.name ++ ".sql"]

theorem names_checked (e : Emitter) (d : Disk) (r : Report) : e.NamesChecked d r := by
  constructor
  case badFileName_iff =>
    rw [← exists_isFirst_iff]
    constructor
    · rintro ⟨name, herr⟩
      obtain ⟨f, hf, -⟩ := write_eq_badFileName_iff.1 herr
      exact ⟨f, hf⟩
    · rintro ⟨f, hf⟩
      exact ⟨f.name, write_eq_badFileName_iff.2 ⟨f, hf, rfl⟩⟩
  case badFileName =>
    intro name
    exact write_eq_badFileName_iff
  case nameTooLong_iff =>
    constructor
    · rintro ⟨name, dialect, max, herr⟩
      obtain ⟨hgood, hview, -, f, hf, -⟩ := write_eq_nameTooLong_iff.1 herr
      obtain ⟨f, hf, hexceeds⟩ := exists_isFirst_iff.1 ⟨f, hf⟩
      exact ⟨hgood, hview, f, hf, max, hexceeds⟩
    · rintro ⟨hgood, hview, f, hf, max, hexceeds⟩
      obtain ⟨f, hf⟩ := (exists_isFirst_iff (p := fun f : CompiledFact =>
        e.dialect.Exceeds f.name max)).2 ⟨f, hf, hexceeds⟩
      exact ⟨f.name, e.dialect, max,
        write_eq_nameTooLong_iff.2 ⟨hgood, hview, rfl, f, hf, rfl⟩⟩
  case nameTooLong =>
    intro name dialect max
    exact write_eq_nameTooLong_iff
  case unchanged =>
    intro err habout herr
    exact fst_write_of_nameError? ((write_eq_error_iff habout).1 herr)
  case failures =>
    intro failures err habout
    rw [write_eq_error_iff habout, write_eq_error_iff habout]
  case components =>
    intro name
    exact isPlainFileName_iff_components
  case normal =>
    intro name hname
    exact (not_unusable_iff.1 hname).2.2
  case place =>
    intro name hname
    exact locate_path d (not_unusable_iff.1 hname).1
  case written =>
    intro loc content h
    exact place_of_written h

/-- Two facts with usable names, the second with 64 bytes in 32 letters, and a failed fact whose
name leads out of its directory. -/
def accented : Report where
  compiled := [⟨"visits", "SELECT 1"⟩, ⟨String.ofList (.replicate 32 'é'), "SELECT 2"⟩]
  failures := [⟨"../visits", .build, .build ⟨"../visits"⟩⟩]

theorem accented_refused :
    (∀ f ∈ accented.compiled, ¬Unusable f.name) ∧ sideways.options.wrapView = true ∧
      Dialect.postgres.Exceeds (String.ofList (.replicate 32 'é')) 63 ∧
      (sideways.write workingTree accented).2 =
        .error (.nameTooLong (String.ofList (.replicate 32 'é')) .postgres 63) ∧
      (sideways.write workingTree accented).1 = workingTree := by
  have hgood : ∀ f ∈ accented.compiled, ¬Unusable f.name := by
    intro f hf
    rw [← isPlainFileName_iff]
    revert f
    decide +kernel
  have hexceeds : Dialect.postgres.Exceeds (String.ofList (.replicate 32 'é')) 63 :=
    .postgres (by decide +kernel)
  have hbefore : ∀ f ∈ [CompiledFact.mk "visits" "SELECT 1"],
      ¬sideways.dialect.Exceeds f.name 63 := by
    intro f hf
    rw [Dialect.exceeds_iff]
    revert f
    decide +kernel
  have hchecked := names_checked sideways workingTree accented
  have herr := (hchecked.nameTooLong _ _ _).2 ⟨hgood, rfl, rfl, _,
    ⟨[⟨"visits", "SELECT 1"⟩], [], rfl, hexceeds, hbefore⟩, rfl⟩
  exact ⟨hgood, rfl, hexceeds, herr, hchecked.unchanged _ (.nameTooLong _ _ _) herr⟩

end Emitter
end FactViews
