import FactViews.Files.Path
import FactViews.Proofs.TextLemmas

/-! # Parts of paths

The counted beginnings of a path are beginnings of its parts, and start where it starts. A name
that is joined to a directory becomes its last part (`Inside`). A text without a slash is at most
one component. -/

namespace FactViews.Path
open Text

theorem splitOn_append_slash (s t : String) :
    splitOn '/' (s ++ "/" ++ t) = splitOn '/' s ++ splitOn '/' t :=
  splitOn_append_singleton '/' s t

theorem isAbsolute_append (h : s ≠ "") (t : String) : isAbsolute (s ++ t) = isAbsolute s := by
  cases hs : s.toList with
  | nil => exact (h (String.toList_eq_nil_iff.1 hs)).elim
  | cons c cs => simp [isAbsolute, hs]

/-- An absolute path is one that has an empty part before another one. -/
theorem isAbsolute_iff (path : String) :
    isAbsolute path = true ↔ ∃ part parts, splitOn '/' path = "" :: part :: parts := by
  rw [isAbsolute, splitOn, splitChars_eq]
  cases path.toList with
  | nil => simp
  | cons c cs =>
    obtain ⟨p, ps, hps⟩ := List.exists_cons_of_ne_nil (List.splitOn_ne_nil '/' cs)
    rw [List.splitOn_cons_eq_if_modifyHead, hps]
    by_cases hc : c = '/'
    · simp [hc]
    · simp [hc]

/-! ## Ancestors -/

theorem exists_of_mem_countedFrom {done parts ps : List String} (h : ps ∈ countedFrom done parts) :
    ∃ more, more ≠ [] ∧ ps = done ++ more ∧ more <+: parts := by
  induction parts generalizing done with
  | nil => cases h
  | cons part parts ih =>
    have hmore : ps ∈ countedFrom (done ++ [part]) parts →
        ∃ more, more ≠ [] ∧ ps = done ++ more ∧ more <+: part :: parts := by
      intro hps
      obtain ⟨more, -, rfl, hpre⟩ := ih hps
      exact ⟨part :: more, nofun, by simp, List.cons_prefix_cons.2 ⟨rfl, hpre⟩⟩
    rw [countedFrom] at h
    split at h
    · exact hmore h
    · rcases List.mem_cons.1 h with rfl | hps
      · exact ⟨[part], nofun, rfl, List.cons_prefix_cons.2 ⟨rfl, List.nil_prefix⟩⟩
      · exact hmore hps

/-- A counted beginning has the first part, and more than that if it is empty. -/
theorem exists_of_mem_counted {ps : List String} (h : ps ∈ counted path) :
    ∃ first more, ps = first :: more ∧ ps <+: splitOn '/' path ∧ (first = "" → more ≠ []) := by
  rw [counted] at h
  split at h
  · next first rest hparts =>
    split at h
    · next hfirst =>
      obtain ⟨more, hne, rfl, hpre⟩ := exists_of_mem_countedFrom h
      exact ⟨first, more, rfl, hparts ▸ List.cons_prefix_cons.2 ⟨rfl, hpre⟩, fun _ => hne⟩
    · next hfirst =>
      obtain ⟨more, hne, rfl, hpre⟩ := exists_of_mem_countedFrom h
      obtain ⟨part, more, rfl⟩ := List.exists_cons_of_ne_nil hne
      obtain ⟨rfl, -⟩ := List.cons_prefix_cons.1 hpre
      exact ⟨part, more, rfl, hparts ▸ hpre, fun hpart => (hfirst hpart).elim⟩
  · cases h

theorem prefix_of_mem_ancestors {ps : List String} (h : ps ∈ ancestors path) :
    ps <+: splitOn '/' path := by
  obtain ⟨first, more, -, hpre, -⟩ :=
    exists_of_mem_counted (List.mem_reverse.1 (List.mem_of_mem_drop h))
  exact hpre

/-- The parts of a path can be joined again without a change. -/
theorem splitOn_joinWith_of_prefix {ps : List String} (hne : ps ≠ [])
    (h : ps <+: splitOn '/' path) : splitOn '/' (joinWith "/" ps) = ps :=
  splitOn_joinWith hne fun _ hpart => notMem_of_mem_splitOn (h.mem hpart)

theorem isAbsolute_joinWith {ps : List String} (h : ps ∈ counted path) :
    isAbsolute (joinWith "/" ps) = isAbsolute path := by
  obtain ⟨first, more, rfl, hpre, hmore⟩ := exists_of_mem_counted h
  obtain ⟨rest, hrest⟩ := hpre
  have hsplit := splitOn_joinWith_of_prefix (List.cons_ne_nil first more) ⟨rest, hrest⟩
  rw [Bool.eq_iff_iff, isAbsolute_iff, isAbsolute_iff, hsplit, ← hrest]
  cases more with
  | cons part more => simp
  | nil =>
    have hfirst : first ≠ "" := fun h => hmore h rfl
    simp [hfirst]

/-- The nearest ancestor is spelled by a beginning of the parts, or nothing of them is left. -/
theorem parent?_eq_some (h : parent? path = some parent) :
    (∃ ps ∈ counted path, parent = joinWith "/" ps) ∨ parent = base path := by
  rw [parent?, parents] at h
  split at h
  · cases h
  · cases hps : ancestors path with
    | nil =>
      rw [hps] at h
      cases h
      exact .inr rfl
    | cons ps rest =>
      rw [hps] at h
      cases h
      have hmem : ps ∈ ancestors path := hps ▸ List.mem_cons_self
      exact .inl ⟨ps, List.mem_reverse.1 (List.mem_of_mem_drop hmem), rfl⟩

/-! ## Names in directories -/

/-- A path that is spelled like a directory, with a name after it. -/
structure Inside (directory path name : String) : Prop where
  isAbsolute : isAbsolute path = isAbsolute directory
  parts : ∃ before after, splitOn '/' path = before ++ [name] ∧
    splitOn '/' directory = before ++ after ∧ ∀ part ∈ after, part = ""

theorem isAbsolute_of_notMem (h : '/' ∉ name.toList) : isAbsolute name = false := by
  cases hname : name.toList with
  | nil => simp [isAbsolute, hname]
  | cons c cs =>
    have hc : c ≠ '/' := fun hc => h (by simp [hname, hc])
    simp [isAbsolute, hname, hc]

theorem inside_append_slash (hdir : directory ≠ "") (h : '/' ∉ name.toList) :
    Inside directory (directory ++ "/" ++ name) name := by
  constructor
  · rw [String.append_assoc, isAbsolute_append hdir]
  · exact ⟨splitOn '/' directory, [], by rw [splitOn_append_slash, splitOn_of_notMem h], by simp,
      nofun⟩

theorem inside_join (directory : String) (h : '/' ∉ name.toList) :
    Inside directory (join directory name) name := by
  have hname := isAbsolute_of_notMem h
  by_cases hdir : directory = ""
  · subst hdir
    simp only [join, hname, decide_true, Bool.false_or, if_true]
    exact ⟨hname, [], [""], splitOn_of_notMem h, rfl, by simp⟩
  · by_cases hslash : directory.toList.getLast? = some '/'
    · obtain ⟨cs, hcs⟩ := List.getLast?_eq_some_iff.1 hslash
      obtain rfl : directory = String.ofList cs ++ "/" := by
        rw [← String.toList_inj, hcs]
        simp
      simp only [join, hname, hdir, hslash, decide_false, Bool.or_self, Bool.false_eq_true,
        if_false, if_true]
      refine ⟨isAbsolute_append hdir name, splitOn '/' (String.ofList cs), [""], ?_, ?_, by simp⟩
      · rw [splitOn_append_slash, splitOn_of_notMem h]
      · have := splitOn_append_slash (String.ofList cs) ""
        rwa [String.append_empty] at this
    · simp only [join, hname, hdir, hslash, decide_false, Bool.or_self, Bool.false_eq_true,
        if_false]
      exact inside_append_slash hdir h

theorem Inside.getLast? (h : Inside directory path name) :
    (splitOn '/' path).getLast? = some name := by
  obtain ⟨before, after, hpath, -, -⟩ := h.parts
  rw [hpath, List.getLast?_concat]

/-- A slash after the directory makes no difference. -/
theorem Inside.join_empty (h : Inside directory path name) :
    Inside (join directory "") path name := by
  obtain ⟨before, after, hpath, hdirectory, hafter⟩ := h.parts
  have hempty : Path.isAbsolute "" = false := rfl
  rw [join, hempty, Bool.false_or]
  split
  · next hdir =>
    rw [← of_decide_eq_true hdir]
    exact h
  · next hdir =>
    split
    · rw [String.append_empty]
      exact h
    · have hdir' : directory ≠ "" := fun h => hdir (decide_eq_true h)
      refine ⟨?_, before, after ++ [""], hpath, ?_, ?_⟩
      · rw [String.append_empty, isAbsolute_append hdir', h.isAbsolute]
      · rw [splitOn_append_slash, hdirectory, List.append_assoc]
        rfl
      · exact List.forall_mem_append.2 ⟨hafter, by simp⟩

theorem join_append_slash (hsub : sub ≠ "") (directory name : String) :
    join directory (sub ++ "/" ++ name) = join directory sub ++ "/" ++ name := by
  rw [join, join, String.append_assoc, isAbsolute_append hsub]
  split
  · rw [String.append_assoc]
  · split
    · simp only [String.append_assoc]
    · simp only [String.append_assoc]

theorem join_ne_empty (hpath : path ≠ "") (directory : String) : join directory path ≠ "" := by
  rw [join]
  split
  · exact hpath
  · split
    · simp [hpath]
    · simp [hpath]

/-! ## Components -/

theorem components_of_notMem (h : '/' ∉ name.toList) :
    components name = if name = "" then [] else [.ofPart name] := by
  rw [components, isAbsolute_of_notMem h, counted, splitOn_of_notMem h]
  by_cases hname : name = ""
  · simp [hname, countedFrom]
  · simp [hname, countedFrom]

theorem components_eq_normal_iff (h : '/' ∉ name.toList) :
    components name = [.normal part] ↔ name ≠ "" ∧ name ≠ "." ∧ name ≠ ".." ∧ part = name := by
  rw [components_of_notMem h, Component.ofPart]
  split
  · simp_all
  · split
    · simp_all
    · split
      · simp_all
      · simp_all [eq_comm]

example : components "./a//b/./../c.sql/" =
    [.current, .normal "a", .normal "b", .parent, .normal "c.sql"] := by decide +kernel

end FactViews.Path
