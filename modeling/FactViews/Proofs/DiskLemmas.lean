import FactViews.Files.Disk

/-! # What stands where on a disk

Putting an object into an existing directory changes what stands at its own location and nothing
else (`Disk.find?_put`). So a disk is described by what stands at each location. -/

namespace FactViews
open Text

namespace FileTree

theorem child?_putChild (entries : List (String × FileTree)) (name n : String) (child : FileTree) :
    ((directory entries).putChild name child).child? n =
      if n = name then some child else (directory entries).child? n := by
  unfold putChild
  by_cases hany : entries.any (·.1 = name) = true
  · have hfst : ∀ e : String × FileTree,
        (if e.1 = name then (name, child) else e).1 = e.1 := by
      intro e
      by_cases he : e.1 = name <;> simp [he]
    simp only [hany, if_true, child?, List.find?_map, Function.comp_def, hfst]
    by_cases hn : n = name
    · subst hn
      obtain ⟨e, he, hen⟩ := List.any_eq_true.1 hany
      cases hfind : entries.find? (·.1 = n) with
      | none => exact (List.find?_eq_none.1 hfind e he hen).elim
      | some e' =>
        have hname : e'.1 = n := by simpa using List.find?_some hfind
        simp [hname]
    · rw [if_neg hn]
      cases hfind : entries.find? (·.1 = n) with
      | none => rfl
      | some e' =>
        have hname : e'.1 = n := by simpa using List.find?_some hfind
        have hne : e'.1 ≠ name := hname ▸ hn
        simp [hne]
  · by_cases hn : n = name
    · simp [hany, child?, hn]
    · simp [hany, child?, hn, Ne.symm hn]

theorem entry_putChild (entries : List (String × FileTree)) (name : String) (child : FileTree) :
    ((directory entries).putChild name child).entry = .directory := by
  simp only [putChild]
  split <;> rfl

theorem find?_cons (t : FileTree) (n : String) (loc : Location) :
    t.find? (n :: loc) = (t.child? n).bind (find? · loc) := by
  rw [find?]
  cases t.child? n <;> rfl

theorem find?_append (t : FileTree) (loc loc' : Location) :
    t.find? (loc ++ loc') = (t.find? loc).bind (find? · loc') := by
  induction loc generalizing t with
  | nil => rfl
  | cons n loc ih =>
    rw [List.cons_append, find?_cons, find?_cons]
    cases t.child? n with
    | none => rfl
    | some child => exact ih child

/-- Below a file there is nothing. -/
theorem find?_cons_of_not_directory {t : FileTree} (h : t.entry ≠ .directory) :
    t.find? (n :: loc) = none := by
  cases t with
  | file content => rfl
  | directory entries => exact (h rfl).elim

theorem exists_directory {t : FileTree} (h : (t.find? loc).map entry = some .directory) :
    ∃ entries, t = directory entries := by
  cases t with
  | directory entries => exact ⟨entries, rfl⟩
  | file content =>
    cases loc with
    | nil | cons => cases h

theorem find?_cons_putChild (entries : List (String × FileTree)) (name : String)
    (child : FileTree) (n : String) (loc : Location) :
    ((directory entries).putChild name child).find? (n :: loc) =
      if n = name then child.find? loc else (directory entries).find? (n :: loc) := by
  rw [find?_cons, child?_putChild]
  split
  · rfl
  · rw [find?_cons]

theorem put_cons {t child : FileTree} (h : t.child? n = some child) (new : FileTree)
    (hloc : loc ≠ []) : t.put new (n :: loc) = t.putChild n (child.put new loc) := by
  cases loc with
  | nil => exact (hloc rfl).elim
  | cons m loc => simp only [put, h]

/-- An object that is put into a directory is all that changes, if it has nothing below it and
takes the place of no directory. -/
theorem find?_put {t new : FileTree} (hnew : ∀ n loc, new.find? (n :: loc) = none)
    (hparent : (t.find? loc).map entry = some .directory)
    (hold : (t.find? (loc ++ [name])).map entry ≠ some .directory) (loc' : Location) :
    ((t.put new (loc ++ [name])).find? loc').map entry =
      if loc' = loc ++ [name] then some new.entry else (t.find? loc').map entry := by
  induction loc generalizing t loc' with
  | nil =>
    obtain ⟨entries, rfl⟩ := exists_directory hparent
    rw [List.nil_append, put]
    cases loc' with
    | nil =>
      rw [if_neg nofun]
      exact congrArg some (entry_putChild entries name new)
    | cons n rest =>
      rw [find?_cons_putChild]
      by_cases hn : n = name
      · subst hn
        rw [if_pos rfl]
        cases rest with
        | nil => rw [if_pos rfl, find?, Option.map_some]
        | cons n' rest =>
          -- what stood here was no directory, so there was nothing below it either
          rw [hnew, if_neg (by simp), find?_cons (directory entries)]
          cases hchild : (directory entries).child? n with
          | none => rfl
          | some child =>
            have hfile : child.entry ≠ .directory := by
              intro hentry
              rw [List.nil_append, find?_cons, hchild] at hold
              exact hold (congrArg some hentry)
            rw [Option.bind_some, find?_cons_of_not_directory hfile]
      · rw [if_neg hn, if_neg (by simp [hn])]
  | cons n₀ loc ih =>
    obtain ⟨entries, rfl⟩ := exists_directory hparent
    cases hchild : (directory entries).child? n₀ with
    | none =>
      rw [find?_cons, hchild] at hparent
      cases hparent
    | some child =>
      rw [find?_cons, hchild, Option.bind_some] at hparent
      rw [List.cons_append, find?_cons, hchild, Option.bind_some] at hold
      rw [List.cons_append, put_cons hchild new (by simp)]
      cases loc' with
      | nil =>
        rw [if_neg nofun]
        exact congrArg some (entry_putChild entries n₀ _)
      | cons n rest =>
        rw [find?_cons_putChild]
        by_cases hn : n = n₀
        · subst hn
          rw [if_pos rfl, ih hparent hold, find?_cons, hchild]
          simp
        · rw [if_neg hn, if_neg (by simp [hn])]

end FileTree

/-! ## Locations of paths -/

namespace Location

/-- Where one part of a path leads from a location, by its text alone. -/
def step (loc : Location) (part : String) : Location :=
  if part = "" ∨ part = "." then loc else if part = ".." then loc.dropLast else loc ++ [part]

/-- Where parts lead from a location, by their text alone. -/
def descend (loc : Location) (parts : List String) : Location := parts.foldl step loc

/-- A part that is the name of an object. -/
structure IsName (part : String) : Prop where
  ne_empty : part ≠ ""
  ne_dot : part ≠ "."
  ne_dots : part ≠ ".."

theorem step_name {loc : Location} (h : IsName part) : loc.step part = loc ++ [part] := by
  simp [step, h.ne_empty, h.ne_dot, h.ne_dots]

theorem descend_cons (loc : Location) (part : String) (parts : List String) :
    loc.descend (part :: parts) = (loc.step part).descend parts := rfl

theorem descend_append (loc : Location) (parts parts' : List String) :
    loc.descend (parts ++ parts') = (loc.descend parts).descend parts' := List.foldl_append

theorem descend_of_empty {loc : Location} (h : ∀ part ∈ parts, part = "") :
    loc.descend parts = loc := by
  induction parts with
  | nil => rfl
  | cons part parts ih =>
    obtain ⟨rfl, hparts⟩ := List.forall_mem_cons.1 h
    exact ih hparts

end Location

namespace Disk
variable {d d' : Disk}

/-- Where a path leads, by its text alone: dots stay, two dots go up. -/
def locate (d : Disk) (path : String) : Location :=
  Location.descend [] (d.start path ++ splitOn '/' path)

theorem start_congr (h : d'.here = d.here) (path : String) : d'.start path = d.start path := by
  rw [start, start, h]

theorem locate_congr (h : d'.here = d.here) (path : String) : d'.locate path = d.locate path := by
  rw [locate, locate, start_congr h]

theorem find?_put (hparent : d.find? loc = some .directory)
    (hold : d.find? (loc ++ [name]) ≠ some .directory) (entry : DiskEntry) (loc' : Location) :
    (d.put (loc ++ [name]) entry).find? loc' =
      if loc' = loc ++ [name] then some entry else d.find? loc' := by
  cases entry with
  | directory =>
    have hnew : ∀ n loc, (FileTree.directory []).find? (n :: loc) = none := fun _ _ => rfl
    exact FileTree.find?_put hnew hparent hold loc'
  | file content =>
    have hnew : ∀ n loc, (FileTree.file content).find? (n :: loc) = none := fun _ _ => rfl
    exact FileTree.find?_put hnew hparent hold loc'

/-- Every object on a trail is in the one before it, the first one in the root. -/
def Holds (d : Disk) : Trail → Prop
  | [] => True
  | (name, t) :: trail => (d.last trail).child? name = some t ∧ d.Holds trail

theorem holds_nil (d : Disk) : d.Holds [] := trivial

theorem Holds.tail {trail : Trail} (h : d.Holds trail) : d.Holds trail.tail := by
  cases trail with
  | nil => exact h
  | cons => exact h.2

theorem location_cons (name : String) (t : FileTree) (trail : Trail) :
    Trail.location ((name, t) :: trail) = trail.location ++ [name] := by
  simp [Trail.location]

theorem location_tail (trail : Trail) : Trail.location trail.tail = trail.location.dropLast := by
  cases trail with
  | nil => rfl
  | cons e trail => simp [Trail.location]

theorem Holds.find? {trail : Trail} (h : d.Holds trail) :
    d.root.find? trail.location = some (d.last trail) := by
  induction trail with
  | nil => rfl
  | cons e trail ih =>
    obtain ⟨name, t⟩ := e
    rw [location_cons, FileTree.find?_append, ih h.2, Option.bind_some, FileTree.find?_cons, h.1]
    rfl

theorem Holds.entry {trail : Trail} (h : d.Holds trail) :
    d.find? trail.location = some (d.last trail).entry := by
  rw [Disk.find?, h.find?, Option.map_some]

/-- Every part is taken from a directory and leads to an object. -/
def Leads (d : Disk) (loc : Location) : List String → Prop
  | [] => True
  | part :: rest =>
    d.find? loc = some .directory ∧ part.utf8ByteSize ≤ maxName ∧
      (d.find? (loc.step part)).isSome ∧ d.Leads (loc.step part) rest

theorem leads_append {loc : Location} {parts parts' : List String} :
    d.Leads loc (parts ++ parts') ↔ d.Leads loc parts ∧ d.Leads (loc.descend parts) parts' := by
  induction parts generalizing loc with
  | nil => simp [Leads, Location.descend]
  | cons part parts ih =>
    rw [List.cons_append, Leads, Leads, ih]
    simp only [and_assoc]
    rfl

theorem leads_of_empty {loc : Location} (hloc : d.find? loc = some .directory)
    (h : ∀ part ∈ parts, part = "") : d.Leads loc parts := by
  induction parts with
  | nil => trivial
  | cons part parts ih =>
    obtain ⟨rfl, hparts⟩ := List.forall_mem_cons.1 h
    have hstep : loc.step "" = loc := rfl
    refine ⟨hloc, by decide, ?_, ?_⟩
    · rw [hstep, hloc]
      rfl
    · rw [hstep]
      exact ih hparts

/-- One part can be followed from a trail exactly if it can be taken by the text. -/
theorem follow_cons {trail : Trail} (htrail : d.Holds trail) (part : String) :
    (∃ trail', d.Holds trail' ∧ trail'.location = trail.location.step part ∧
      d.find? trail.location = some .directory ∧ part.utf8ByteSize ≤ maxName ∧
      ∀ rest, d.follow trail (part :: rest) = d.follow trail' rest) ∨
    (¬(d.find? trail.location = some .directory ∧ part.utf8ByteSize ≤ maxName ∧
        (d.find? (trail.location.step part)).isSome) ∧
      ∀ rest, ∃ fault, d.follow trail (part :: rest) = .error fault) := by
  have hentry := htrail.entry
  cases hlast : d.last trail with
  | file content =>
    refine .inr ⟨fun h => ?_, fun rest => ⟨.notDirectory, by simp only [follow, hlast]⟩⟩
    rw [hentry, hlast] at h
    cases h.1
  | directory entries =>
    have hdirectory : d.find? trail.location = some .directory := by
      rw [hentry, hlast]
      rfl
    by_cases hdot : part = "" ∨ part = "."
    · have hstep : trail.location.step part = trail.location := if_pos hdot
      refine .inl ⟨trail, htrail, hstep.symm, hdirectory, ?_, fun rest => ?_⟩
      · rcases hdot with rfl | rfl <;> decide
      · simp [follow, hlast, hdot]
    by_cases hdots : part = ".."
    · refine .inl ⟨trail.tail, htrail.tail, ?_, hdirectory, ?_, fun rest => ?_⟩
      · rw [location_tail, Location.step, if_neg hdot, if_pos hdots]
      · rw [hdots]
        decide
      · simp [follow, hlast, hdots]
    have hstep : trail.location.step part = trail.location ++ [part] := by
      rw [Location.step, if_neg hdot, if_neg hdots]
    by_cases hsize : part.utf8ByteSize ≤ maxName
    · have hlong : ¬maxName < part.utf8ByteSize := Nat.not_lt.2 hsize
      cases hchild : (d.last trail).child? part with
      | some t =>
        refine .inl ⟨(part, t) :: trail, ⟨hchild, htrail⟩, ?_, hdirectory, hsize, fun rest => ?_⟩
        · rw [location_cons, hstep]
        · rw [hlast] at hchild
          simp [follow, hlast, hdot, hdots, hlong, hchild]
      | none =>
        refine .inr ⟨fun h => ?_, fun rest => ⟨.notFound, ?_⟩⟩
        · have hnone : d.find? (trail.location ++ [part]) = none := by
            rw [Disk.find?, FileTree.find?_append, htrail.find?, Option.bind_some,
              FileTree.find?_cons, hchild]
            rfl
          rw [hstep, hnone] at h
          cases h.2.2
        · rw [hlast] at hchild
          simp [follow, hlast, hdot, hdots, hlong, hchild]
    · refine .inr ⟨fun h => hsize h.2.1, fun rest => ⟨.tooLong, ?_⟩⟩
      simp [follow, hlast, hdot, hdots, hsize]

theorem leads_of_follow {trail trail' : Trail} (htrail : d.Holds trail)
    (h : d.follow trail parts = .ok trail') :
    d.Leads trail.location parts ∧ d.Holds trail' ∧
      trail'.location = trail.location.descend parts := by
  induction parts generalizing trail with
  | nil =>
    cases h
    exact ⟨trivial, htrail, rfl⟩
  | cons part parts ih =>
    rcases follow_cons htrail part with ⟨trail₁, htrail₁, hstep, hdir, hsize, hfollow⟩ | ⟨-, hfault⟩
    · rw [hfollow] at h
      obtain ⟨hleads, htrail', hloc⟩ := ih htrail₁ h
      rw [hstep] at hleads hloc
      refine ⟨⟨hdir, hsize, ?_, hleads⟩, htrail', hloc⟩
      rw [← hstep, htrail₁.entry]
      rfl
    · obtain ⟨fault, hfail⟩ := hfault parts
      rw [hfail] at h
      cases h

theorem follow_of_leads {trail : Trail} (htrail : d.Holds trail)
    (h : d.Leads trail.location parts) :
    ∃ trail', d.follow trail parts = .ok trail' ∧ d.Holds trail' ∧
      trail'.location = trail.location.descend parts := by
  induction parts generalizing trail with
  | nil => exact ⟨trail, rfl, htrail, rfl⟩
  | cons part parts ih =>
    obtain ⟨hdir, hsize, hsome, hleads⟩ := h
    rcases follow_cons htrail part with ⟨trail₁, htrail₁, hstep, -, -, hfollow⟩ | ⟨hno, -⟩
    · obtain ⟨trail', hok, htrail', hloc⟩ := ih htrail₁ (hstep ▸ hleads)
      rw [hstep] at hloc
      exact ⟨trail', (hfollow parts).trans hok, htrail', hloc⟩
    · exact (hno ⟨hdir, hsize, hsome⟩).elim

/-- What stands at the end of a path that can be followed is what stands where it leads. -/
theorem entry_treeAlong_eq_ok_iff {start : Location} {parts : List String} {entry : DiskEntry} :
    (d.treeAlong start parts).map FileTree.entry = .ok entry ↔
      d.Leads [] (start ++ parts) ∧
        d.find? (Location.descend [] (start ++ parts)) = some entry := by
  rw [treeAlong]
  constructor
  · intro h
    cases hfollow : d.follow [] (start ++ parts) with
    | error fault =>
      rw [hfollow] at h
      cases h
    | ok trail =>
      rw [hfollow] at h
      cases h
      obtain ⟨hleads, htrail, hloc⟩ := leads_of_follow d.holds_nil hfollow
      exact ⟨hleads, hloc ▸ htrail.entry⟩
  · rintro ⟨hleads, hentry⟩
    obtain ⟨trail, hfollow, htrail, hloc⟩ := follow_of_leads d.holds_nil hleads
    have hlast : some (d.last trail).entry = some entry := by
      rw [← htrail.entry, hloc]
      exact hentry
    rw [hfollow]
    exact congrArg Except.ok (Option.some.inj hlast)

theorem isDirectory_iff {start : Location} {parts : List String} :
    d.isDirectory start parts = true ↔
      d.Leads [] (start ++ parts) ∧
        d.find? (Location.descend [] (start ++ parts)) = some .directory := by
  rw [← entry_treeAlong_eq_ok_iff, isDirectory]
  cases d.treeAlong start parts with
  | error fault => exact ⟨nofun, nofun⟩
  | ok t =>
    cases t with
    | file content => exact ⟨nofun, nofun⟩
    | directory entries => exact ⟨fun _ => rfl, fun _ => rfl⟩

end Disk
end FactViews
