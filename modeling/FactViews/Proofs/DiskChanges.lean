import Mathlib.Data.List.Induction
import Mathlib.Data.List.Infix
import Mathlib.Data.List.TakeWhile
import FactViews.Proofs.DiskLemmas
import FactViews.Proofs.PathLemmas

/-! # What operations change on a disk

Making directories adds directories where nothing was, and writing a file changes this file only
(`Disk.Changed`). Such changes keep what was made or written before, and doing it again changes
nothing (`Disk.Stored`). -/

namespace FactViews
open Text

namespace Disk
variable {d d' : Disk}

/-! ## Changes -/

/-- A disk that differs from another one by new directories and written files at most, each at one
of the given locations. -/
structure Changed (dirs files : Location → Prop) (d d' : Disk) : Prop where
  here : d'.here = d.here
  entry : ∀ loc, d'.find? loc = d.find? loc ∨
    (dirs loc ∧ d.find? loc = none ∧ d'.find? loc = some .directory) ∨
    (files loc ∧ d.find? loc ≠ some .directory ∧ ∃ content, d'.find? loc = some (.file content))

namespace Changed
variable {dirs dirs' files files' : Location → Prop} {d'' : Disk}

theorem refl (dirs files : Location → Prop) (d : Disk) : d.Changed dirs files d :=
  ⟨rfl, fun _ => .inl rfl⟩

theorem mono (h : d.Changed dirs files d') (hdirs : ∀ loc, dirs loc → dirs' loc)
    (hfiles : ∀ loc, files loc → files' loc) : d.Changed dirs' files' d' := by
  refine ⟨h.here, fun loc => ?_⟩
  rcases h.entry loc with heq | ⟨hloc, hrest⟩ | ⟨hloc, hrest⟩
  · exact .inl heq
  · exact .inr (.inl ⟨hdirs loc hloc, hrest⟩)
  · exact .inr (.inr ⟨hfiles loc hloc, hrest⟩)

theorem trans (h : d.Changed dirs files d') (h' : d'.Changed dirs files d'') :
    d.Changed dirs files d'' := by
  refine ⟨h'.here.trans h.here, fun loc => ?_⟩
  rcases h'.entry loc with heq' | ⟨hloc', hnone', hdir'⟩ | ⟨hloc', hfile', hcontent'⟩
  · rw [heq']
    exact h.entry loc
  · rcases h.entry loc with heq | ⟨-, -, hdir⟩ | ⟨-, -, content, hcontent⟩
    · exact .inr (.inl ⟨hloc', heq ▸ hnone', hdir'⟩)
    · rw [hnone'] at hdir
      cases hdir
    · rw [hnone'] at hcontent
      cases hcontent
  · rcases h.entry loc with heq | ⟨-, -, hdir⟩ | ⟨-, hfile, -⟩
    · exact .inr (.inr ⟨hloc', heq ▸ hfile', hcontent'⟩)
    · exact (hfile' hdir).elim
    · exact .inr (.inr ⟨hloc', hfile, hcontent'⟩)

/-- Directories stay. -/
theorem directory (h : d.Changed dirs files d') (hloc : d.find? loc = some .directory) :
    d'.find? loc = some .directory := by
  rcases h.entry loc with heq | ⟨-, -, hdir⟩ | ⟨-, hno, -⟩
  · exact heq.trans hloc
  · exact hdir
  · exact (hno hloc).elim

/-- Files that are not written stay as they are, and none appears. -/
theorem file_iff (h : d.Changed dirs files d') (hloc : ¬files loc) :
    d'.find? loc = some (.file content) ↔ d.find? loc = some (.file content) := by
  rcases h.entry loc with heq | ⟨-, hnone, hdir⟩ | ⟨hfiles, -⟩
  · rw [heq]
  · rw [hnone, hdir]
    exact ⟨nofun, nofun⟩
  · exact (hloc hfiles).elim

/-- A directory that was not there was made where nothing was. -/
theorem made (h : d.Changed dirs files d') (hloc : d'.find? loc = some .directory)
    (hnot : d.find? loc ≠ some .directory) : d.find? loc = none ∧ dirs loc := by
  rcases h.entry loc with heq | ⟨hdirs, hnone, -⟩ | ⟨-, -, content, hcontent⟩
  · exact (hnot (heq ▸ hloc)).elim
  · exact ⟨hnone, hdirs⟩
  · rw [hcontent] at hloc
    cases hloc

theorem isSome (h : d.Changed dirs files d') (hloc : (d.find? loc).isSome) :
    (d'.find? loc).isSome := by
  rcases h.entry loc with heq | ⟨-, hnone, -⟩ | ⟨-, -, content, hcontent⟩
  · rw [heq]
    exact hloc
  · rw [hnone] at hloc
    cases hloc
  · rw [hcontent]
    rfl

theorem leads (h : d.Changed dirs files d') {loc : Location} (hl : d.Leads loc parts) :
    d'.Leads loc parts := by
  induction parts generalizing loc with
  | nil => trivial
  | cons part parts ih => exact ⟨h.directory hl.1, hl.2.1, h.isSome hl.2.2.1, ih hl.2.2.2⟩

theorem isDirectory (h : d.Changed dirs files d') {start : Location}
    (hd : d.isDirectory start parts = true) : d'.isDirectory start parts = true := by
  obtain ⟨hleads, hdir⟩ := isDirectory_iff.1 hd
  exact isDirectory_iff.2 ⟨h.leads hleads, h.directory hdir⟩

end Changed

/-! ## Making directories and writing files -/

/-- The parts of a path name a place in an existing directory. -/
def Names (d : Disk) (start : Location) (parts : List String) (loc : Location) : Prop :=
  ∃ before name after, parts = before ++ name :: after ∧ (∀ part ∈ after, part = "") ∧
    Location.IsName name ∧ name.utf8ByteSize ≤ maxName ∧ d.isDirectory start before = true ∧
    loc = Location.descend [] (start ++ before) ++ [name]

theorem Names.mono {start : Location} (h : d.Names start parts loc)
    (hc : d.Changed dirs files d') : d'.Names start parts loc := by
  obtain ⟨before, name, after, hparts, hafter, hname, hsize, hdir, hloc⟩ := h
  exact ⟨before, name, after, hparts, hafter, hname, hsize, hc.isDirectory hdir, hloc⟩

/-- The place is where the path leads. -/
theorem Names.eq_descend {start : Location} (h : d.Names start parts loc) :
    loc = Location.descend [] (start ++ parts) := by
  obtain ⟨before, name, after, rfl, hafter, hname, -, -, rfl⟩ := h
  rw [← List.append_assoc, Location.descend_append _ (start ++ before), Location.descend_cons,
    Location.step_name hname, Location.descend_of_empty hafter]

theorem dropWhile_reverse {before after : List String} (hafter : ∀ part ∈ after, part = "")
    (hname : name ≠ "") :
    (before ++ name :: after).reverse.dropWhile (· = "") = name :: before.reverse := by
  have hafter' : ∀ part ∈ after.reverse, decide (part = "") = true := fun part hpart =>
    decide_eq_true (hafter part (List.mem_reverse.1 hpart))
  rw [List.reverse_append, List.reverse_cons, List.append_assoc,
    List.dropWhile_append_of_pos hafter', List.singleton_append,
    List.dropWhile_cons_of_neg (by simpa using hname)]

/-- Parts are all empty, or there is a last one that is not. -/
theorem empty_or_exists_last (parts : List String) :
    (∀ part ∈ parts, part = "") ∨ ∃ before name after, parts = before ++ name :: after ∧
      (∀ part ∈ after, part = "") ∧ name ≠ "" := by
  induction parts using List.reverseRecOn with
  | nil => exact .inl nofun
  | append_singleton parts part ih =>
    by_cases hpart : part = ""
    · have hlast : ∀ p ∈ [part], p = "" := by simpa using hpart
      rcases ih with hall | ⟨before, name, after, rfl, hafter, hname⟩
      · exact .inl (List.forall_mem_append.2 ⟨hall, hlast⟩)
      · exact .inr ⟨before, name, after ++ [part], by simp,
          List.forall_mem_append.2 ⟨hafter, hlast⟩, hname⟩
    · exact .inr ⟨parts, part, [], rfl, nofun, hpart⟩

theorem locateAlong_of_empty {start : Location} (h : ∀ part ∈ parts, part = "") :
    d.locateAlong start parts = .ok none := by
  have hdrop : parts.reverse.dropWhile (· = "") = [] := by
    refine List.dropWhile_eq_nil_iff.2 fun part hpart => ?_
    exact decide_eq_true (h part (List.mem_reverse.1 hpart))
  rw [locateAlong, hdrop]

theorem locateAlong_of_isDirectory {start : Location} {before after : List String}
    (hafter : ∀ part ∈ after, part = "") (hname : name ≠ "") (hsize : name.utf8ByteSize ≤ maxName)
    (hbefore : d.isDirectory start before = true) :
    d.locateAlong start (before ++ name :: after) =
      .ok (if name = "." ∨ name = ".." then none
        else some (Location.descend [] (start ++ before) ++ [name])) := by
  obtain ⟨hleads, hdir⟩ := isDirectory_iff.1 hbefore
  obtain ⟨trail, hfollow, htrail, hloc⟩ := follow_of_leads d.holds_nil hleads
  have hloc' : trail.location = Location.descend [] (start ++ before) := hloc
  have hlast : (d.last trail).entry = .directory :=
    Option.some.inj (htrail.entry.symm.trans (hloc' ▸ hdir))
  simp only [locateAlong, dropWhile_reverse hafter hname, List.reverse_reverse, hfollow]
  split
  · next content hfile =>
    rw [hfile] at hlast
    cases hlast
  · by_cases hdots : name = "." ∨ name = ".."
    · simp [hdots]
    · have hlong : ¬maxName < name.utf8ByteSize := Nat.not_lt.2 hsize
      simp [hdots, hlong, hloc']

theorem locateAlong_eq_some_iff {start : Location} :
    d.locateAlong start parts = .ok (some loc) ↔ d.Names start parts loc := by
  constructor
  · intro h
    rcases empty_or_exists_last parts with hall | ⟨before, name, after, rfl, hafter, hname⟩
    · rw [locateAlong_of_empty hall] at h
      cases h
    · simp only [locateAlong, dropWhile_reverse hafter hname, List.reverse_reverse] at h
      cases hfollow : d.follow [] (start ++ before) with
      | error fault => simp [hfollow] at h
      | ok trail =>
        obtain ⟨hleads, htrail, hloc⟩ := leads_of_follow d.holds_nil hfollow
        have hentry := htrail.entry
        simp only [hfollow] at h
        split at h
        · cases h
        · next entries hlast =>
          split at h
          · cases h
          · next hdots =>
            split at h
            · cases h
            · next hsize =>
              cases h
              obtain ⟨hdot, hdots⟩ := not_or.1 (by simpa using hdots)
              rw [hlast] at hentry
              have hbefore : d.isDirectory start before = true :=
                isDirectory_iff.2 ⟨hleads, hloc ▸ hentry⟩
              exact ⟨before, name, after, rfl, hafter, ⟨hname, hdot, hdots⟩, Nat.not_lt.1 hsize,
                hbefore, by rw [hloc]; rfl⟩
  · rintro ⟨before, name, after, rfl, hafter, hname, hsize, hbefore, rfl⟩
    rw [locateAlong_of_isDirectory hafter hname.ne_empty hsize hbefore,
      if_neg (by simp [hname.ne_dot, hname.ne_dots])]

theorem Names.find?_put {start : Location} (h : d.Names start parts loc)
    (hold : d.find? loc ≠ some .directory) (entry : DiskEntry) (loc' : Location) :
    (d.put loc entry).find? loc' = if loc' = loc then some entry else d.find? loc' := by
  obtain ⟨before, name, after, -, -, -, -, hbefore, rfl⟩ := h
  exact Disk.find?_put (isDirectory_iff.1 hbefore).2 hold entry loc'

theorem Names.changed_directory {start : Location} (h : d.Names start parts loc)
    (hnone : d.find? loc = none) :
    d.Changed (· = loc) (fun _ => False) (d.put loc .directory) := by
  refine ⟨rfl, fun loc' => ?_⟩
  rw [h.find?_put (by rw [hnone]; exact nofun)]
  split
  · next hloc => exact .inr (.inl ⟨hloc, hloc ▸ hnone, rfl⟩)
  · exact .inl rfl

theorem Names.changed_file {start : Location} (h : d.Names start parts loc)
    (hold : d.find? loc ≠ some .directory) (content : ByteArray) :
    d.Changed (fun _ => False) (· = loc) (d.put loc (.file content)) := by
  refine ⟨rfl, fun loc' => ?_⟩
  rw [h.find?_put hold]
  split
  · next hloc => exact .inr (.inr ⟨hloc, hloc ▸ hold, content, rfl⟩)
  · exact .inl rfl

/-- A path can be followed to its place, if a directory stands there or no slash is at its end. -/
theorem Names.leads {start : Location} (h : d.Names start parts loc) (hloc : (d.find? loc).isSome)
    (hend : d.find? loc = some .directory ∨ parts.getLast? ≠ some "") :
    d.Leads [] (start ++ parts) := by
  obtain ⟨before, name, after, rfl, hafter, hname, hsize, hbefore, rfl⟩ := h
  obtain ⟨hleads, hdir⟩ := isDirectory_iff.1 hbefore
  rw [← List.append_assoc, leads_append]
  refine ⟨hleads, hdir, hsize, ?_, ?_⟩
  · rwa [Location.step_name hname]
  · rw [Location.step_name hname]
    rcases hend with hdirectory | hlast
    · exact leads_of_empty hdirectory hafter
    · rcases List.eq_nil_or_concat after with rfl | ⟨parts, part, rfl⟩
      · trivial
      · obtain rfl : part = "" := hafter part (by simp)
        refine (hlast ?_).elim
        rw [List.concat_eq_append, ← List.cons_append, ← List.append_assoc, List.getLast?_concat]

theorem Names.isDirectory {start : Location} (h : d.Names start parts loc)
    (hloc : d.find? loc = some .directory) : d.isDirectory start parts = true := by
  refine isDirectory_iff.2 ⟨h.leads ?_ (.inl hloc), h.eq_descend ▸ hloc⟩
  rw [hloc]
  rfl

theorem makeDirectory_eq_ok {start : Location} (h : d.makeDirectory start parts = .ok d') :
    d.Changed (· = Location.descend [] (start ++ parts)) (fun _ => False) d' ∧
      d'.isDirectory start parts = true := by
  unfold makeDirectory at h
  split at h
  · cases h
  · cases h
  · next loc hlocate =>
    have hnames := locateAlong_eq_some_iff.1 hlocate
    split at h
    · cases h
    · next hnone =>
      cases h
      have hnone' : d.find? loc = none := by simpa using hnone
      have hchanged := hnames.changed_directory hnone'
      refine ⟨hnames.eq_descend ▸ hchanged, (hnames.mono hchanged).isDirectory ?_⟩
      rw [hnames.find?_put (by rw [hnone']; exact nofun), if_pos rfl]

/-- Making a directory that is there fails for no other reason. -/
theorem makeDirectory_of_isDirectory {start : Location} (h : d.isDirectory start parts = true) :
    d.makeDirectory start parts = .error .alreadyExists := by
  obtain ⟨hleads, hdir⟩ := isDirectory_iff.1 h
  rcases empty_or_exists_last parts with hall | ⟨before, name, after, rfl, hafter, hname⟩
  · rw [makeDirectory, locateAlong_of_empty hall]
  · rw [← List.append_assoc, leads_append] at hleads
    obtain ⟨hbefore, hparent, hsize, hsome, -⟩ := hleads
    rw [makeDirectory,
      locateAlong_of_isDirectory hafter hname hsize (isDirectory_iff.2 ⟨hbefore, hparent⟩)]
    by_cases hdots : name = "." ∨ name = ".."
    · rw [if_pos hdots]
    · obtain ⟨hdot, hdots'⟩ := not_or.1 hdots
      rw [Location.step_name ⟨hname, hdot, hdots'⟩] at hsome
      simp only [if_neg hdots, if_pos hsome]

/-- Where parts lead from a start. -/
def endsOf (start : Location) (pss : List (List String)) : List Location :=
  pss.map fun ps => Location.descend [] (start ++ ps)

/-- Whether or not all of it succeeds, the directories that are made are on the list. -/
theorem makeDirectoriesAlong_changed (d : Disk) (start : Location) (pss : List (List String)) :
    d.Changed (· ∈ endsOf start pss) (fun _ => False) (d.makeDirectoriesAlong start pss).1 := by
  induction pss with
  | nil => exact .refl _ _ d
  | cons ps pss ih =>
    have hfirst : ∀ loc, loc = Location.descend [] (start ++ ps) → loc ∈ endsOf start (ps :: pss) :=
      fun loc hloc => List.mem_cons.2 (.inl hloc)
    have hrest : ∀ loc ∈ endsOf start pss, loc ∈ endsOf start (ps :: pss) :=
      fun loc hloc => List.mem_cons_of_mem _ hloc
    rw [makeDirectoriesAlong]
    split
    · next d₁ hmake => exact (makeDirectory_eq_ok hmake).1.mono hfirst fun _ => id
    · have hparents := ih.mono hrest fun _ => id
      split
      · next d₁ fault heq =>
        rw [heq] at hparents
        exact hparents
      · next d₁ heq =>
        rw [heq] at hparents
        split
        · next d₂ hmake =>
          exact hparents.trans ((makeDirectory_eq_ok hmake).1.mono hfirst fun _ => id)
        · split <;> exact hparents
    · split <;> exact .refl _ _ d

/-- The first directory of the list is there in the end. -/
theorem makeDirectoriesAlong_eq_ok {start : Location} {pss : List (List String)}
    (h : d.makeDirectoriesAlong start pss = (d', .ok ())) :
    d.Changed (· ∈ endsOf start pss) (fun _ => False) d' ∧
      ∀ ps ∈ pss.head?, d'.isDirectory start ps = true := by
  have hchanged := d.makeDirectoriesAlong_changed start pss
  rw [h] at hchanged
  refine ⟨hchanged, fun ps hps => ?_⟩
  cases pss with
  | nil => cases hps
  | cons ps pss =>
    cases hps
    unfold makeDirectoriesAlong at h
    split at h
    · next d₁ hmake =>
      cases h
      exact (makeDirectory_eq_ok hmake).2
    · split at h
      · cases h
      · split at h
        · next d₂ hmake =>
          cases h
          exact (makeDirectory_eq_ok hmake).2
        · split at h
          · next hdir =>
            cases h
            exact hdir
          · cases h
    · split at h
      · next hdir =>
        cases h
        exact hdir
      · cases h

/-- Making a directory that is there changes nothing. -/
theorem makeDirectoriesAlong_of_isDirectory {start : Location}
    (h : d.isDirectory start ps = true) (pss : List (List String)) :
    d.makeDirectoriesAlong start (ps :: pss) = (d, .ok ()) := by
  rw [makeDirectoriesAlong, makeDirectory_of_isDirectory h]
  exact if_pos h

/-- The locations that a path passes, as it is spelled. -/
def route (d : Disk) (path : String) : List Location :=
  (splitOn '/' path).inits.map fun parts => Location.descend [] (d.start path ++ parts)

theorem mem_route {path : String} :
    loc ∈ d.route path ↔
      ∃ parts, parts <+: splitOn '/' path ∧ loc = Location.descend [] (d.start path ++ parts) := by
  simp only [route, List.mem_map, List.mem_inits, eq_comm]

theorem route_congr (h : d'.here = d.here) (path : String) : d'.route path = d.route path := by
  rw [route, route, start_congr h]

theorem start_of_isAbsolute (h : Path.isAbsolute path = Path.isAbsolute path') (d : Disk) :
    d.start path = d.start path' := by
  rw [start, start, h]

theorem locate_of_inside (h : Path.Inside directory path name) (hname : Location.IsName name)
    (d : Disk) : d.locate path = d.locate directory ++ [name] := by
  obtain ⟨before, after, hpath, hdirectory, hafter⟩ := h.parts
  rw [locate, locate, start_of_isAbsolute h.isAbsolute, hpath, hdirectory, ← List.append_assoc,
    ← List.append_assoc, Location.descend_append, Location.descend_append _ _ after,
    Location.descend_of_empty hafter]
  exact Location.step_name hname

theorem route_subset_of_inside (h : Path.Inside directory path name) (d : Disk) :
    d.route directory ⊆ d.route path := by
  obtain ⟨before, after, hpath, hdirectory, hafter⟩ := h.parts
  intro loc hloc
  obtain ⟨parts, hparts, rfl⟩ := mem_route.1 hloc
  rw [start_of_isAbsolute h.isAbsolute.symm]
  rw [hdirectory] at hparts
  have hbefore : before <+: splitOn '/' path := hpath ▸ List.prefix_append _ _
  rcases List.prefix_or_prefix_of_prefix hparts (List.prefix_append before after) with hle | hle
  · exact mem_route.2 ⟨parts, hle.trans hbefore, rfl⟩
  · -- the part beyond is empty, so it leads no further
    obtain ⟨more, rfl⟩ := hle
    have hmore : ∀ part ∈ more, part = "" := fun part hpart =>
      hafter part (((List.prefix_append_right_inj before).1 hparts).mem hpart)
    refine mem_route.2 ⟨before, hbefore, ?_⟩
    rw [← List.append_assoc, Location.descend_append, Location.descend_of_empty hmore]

theorem mem_route_of_start (d : Disk) (path : String) :
    Location.descend [] (d.start path) ∈ d.route path :=
  mem_route.2 ⟨[], List.nil_prefix, by rw [List.append_nil]⟩

theorem route_parent_subset (h : Path.parent? path = some parent) (d : Disk) :
    d.route parent ⊆ d.route path := by
  intro loc hloc
  obtain ⟨parts, hparts, rfl⟩ := mem_route.1 hloc
  rcases Path.parent?_eq_some h with ⟨ps, hps, rfl⟩ | rfl
  · obtain ⟨first, more, rfl, hpre, -⟩ := Path.exists_of_mem_counted hps
    rw [Path.splitOn_joinWith_of_prefix (List.cons_ne_nil first more) hpre] at hparts
    rw [start_of_isAbsolute (Path.isAbsolute_joinWith hps)]
    exact mem_route.2 ⟨parts, hparts.trans hpre, rfl⟩
  · have hstart : d.start (Path.base path) = d.start path := by
      refine start_of_isAbsolute ?_ d
      rw [Path.base]
      cases Path.isAbsolute path with
      | true | false => rfl
    have hempty : ∀ part ∈ splitOn '/' (Path.base path), part = "" := by
      rw [Path.base]
      cases Path.isAbsolute path with
      | true | false => decide
    have hlead : ∀ part ∈ parts, part = "" := fun part hpart => hempty part (hparts.mem hpart)
    rw [hstart, Location.descend_append, Location.descend_of_empty hlead]
    exact mem_route_of_start d path

/-- The directory that a path needs is there. -/
def HasDirectory (d : Disk) (path : String) : Prop :=
  path = "" ∨ checkPath path = .ok () ∧ d.isDirectory (d.start path) (splitOn '/' path) = true

theorem HasDirectory.mono (h : d.HasDirectory path) (hc : d.Changed dirs files d') :
    d'.HasDirectory path := by
  refine h.imp_right fun ⟨hpath, hdir⟩ => ⟨hpath, ?_⟩
  rw [start_congr hc.here]
  exact hc.isDirectory hdir

theorem makeDirectories_changed (d : Disk) (path : String) :
    d.Changed (fun loc => path ≠ "" ∧ loc ∈ d.route path) (fun _ => False)
      (d.makeDirectories path).1 := by
  rw [makeDirectories]
  split
  · exact .refl _ _ d
  · next hpath =>
    split
    · exact .refl _ _ d
    · refine (d.makeDirectoriesAlong_changed _ _).mono (fun loc hloc => ⟨hpath, ?_⟩) fun _ => id
      obtain ⟨ps, hps, rfl⟩ := List.mem_map.1 hloc
      rcases List.mem_cons.1 hps with rfl | hps
      · exact mem_route.2 ⟨_, List.prefix_rfl, rfl⟩
      · exact mem_route.2 ⟨ps, Path.prefix_of_mem_ancestors hps, rfl⟩

theorem makeDirectories_eq_ok (h : d.makeDirectories path = (d', .ok ())) :
    d.Changed (fun loc => path ≠ "" ∧ loc ∈ d.route path) (fun _ => False) d' ∧
      d'.HasDirectory path := by
  have hchanged := d.makeDirectories_changed path
  rw [h] at hchanged
  refine ⟨hchanged, ?_⟩
  rw [makeDirectories] at h
  split at h
  · next hpath => exact .inl hpath
  · split at h
    · cases h
    · next hcheck =>
      refine .inr ⟨hcheck, ?_⟩
      rw [start_congr hchanged.here]
      exact (makeDirectoriesAlong_eq_ok h).2 _ rfl

theorem makeDirectories_of_hasDirectory (h : d.HasDirectory path) :
    d.makeDirectories path = (d, .ok ()) := by
  rw [makeDirectories]
  split
  · rfl
  · next hpath =>
    obtain ⟨hcheck, hdir⟩ := h.resolve_left hpath
    rw [hcheck]
    exact makeDirectoriesAlong_of_isDirectory hdir _

theorem writeText_eq_ok (h : d.writeText path text = .ok d') :
    checkPath path = .ok () ∧ d.Names (d.start path) (splitOn '/' path) (d.locate path) ∧
      d.find? (d.locate path) ≠ some .directory ∧
      d' = d.put (d.locate path) (.file text.toUTF8) := by
  rw [writeText, locateNew] at h
  cases hcheck : checkPath path with
  | error fault => simp [hcheck] at h
  | ok =>
    simp only [hcheck] at h
    split at h
    · cases h
    · cases h
    · next loc hloc =>
      have hnames := locateAlong_eq_some_iff.1 hloc
      obtain rfl : loc = d.locate path := hnames.eq_descend
      split at h
      · cases h
      · next hold =>
        cases h
        exact ⟨rfl, hnames, hold, rfl⟩

/-- A text is written at a path, and the directory that was made for it is there. -/
structure Stored (d : Disk) (directory path text : String) : Prop where
  hasDirectory : d.HasDirectory directory
  checked : checkPath path = .ok ()
  names : d.Names (d.start path) (splitOn '/' path) (d.locate path)
  content : d.find? (d.locate path) = some (.file text.toUTF8)

theorem Stored.mono (h : d.Stored directory path text) (hc : d.Changed dirs files d')
    (hpath : ¬files (d.locate path)) : d'.Stored directory path text := by
  refine ⟨h.hasDirectory.mono hc, h.checked, ?_, ?_⟩
  · rw [start_congr hc.here, locate_congr hc.here]
    exact h.names.mono hc
  · rw [locate_congr hc.here]
    exact (hc.file_iff hpath).2 h.content

/-- Writing a text again changes nothing. -/
theorem Stored.writeText (h : d.Stored directory path text) :
    ∃ d', d.writeText path text = .ok d' ∧ d.Changed (fun _ => False) (fun _ => False) d' := by
  have hlocate : d.locateNew path = .ok (some (d.locate path)) := by
    rw [locateNew, h.checked]
    exact locateAlong_eq_some_iff.2 h.names
  have hold : d.find? (d.locate path) ≠ some .directory := by
    rw [h.content]
    exact nofun
  refine ⟨d.put (d.locate path) (.file text.toUTF8), ?_, rfl, fun loc => .inl ?_⟩
  · simp only [Disk.writeText, hlocate, h.content]
  · rw [h.names.find?_put hold]
    split
    · next hloc => rw [hloc, h.content]
    · rfl

/-- What stands at a place is what is found at the path, if there is no slash at its end. -/
theorem Names.entryAt (h : d.Names (d.start path) (splitOn '/' path) (d.locate path))
    (hcheck : checkPath path = .ok ()) (hinside : Path.Inside directory path name)
    (hname : Location.IsName name) (hentry : d.find? (d.locate path) = some entry) :
    d.entryAt path = .ok entry := by
  have hlast : (splitOn '/' path).getLast? ≠ some "" := by
    rw [hinside.getLast?]
    intro hempty
    exact hname.ne_empty (Option.some.inj hempty)
  have hsome : (d.find? (d.locate path)).isSome := by
    rw [hentry]
    rfl
  have htree : d.treeAt path = d.treeAlong (d.start path) (splitOn '/' path) := by
    rw [treeAt, hcheck]
  rw [Disk.entryAt, htree, entry_treeAlong_eq_ok_iff]
  exact ⟨h.leads hsome (.inr hlast), hentry⟩

/-- The text is what is read at the path, if there is no slash at its end. -/
theorem Stored.entryAt (h : d.Stored directory path text)
    (hinside : Path.Inside directory' path name) (hname : Location.IsName name) :
    d.entryAt path = .ok (.file text.toUTF8) :=
  h.names.entryAt h.checked hinside hname h.content

/-- A path leads to what is found at it. -/
theorem find?_of_entryAt (h : d.entryAt path = .ok entry) :
    d.find? (d.locate path) = some entry := by
  rw [entryAt, treeAt] at h
  split at h
  · cases h
  · exact (entry_treeAlong_eq_ok_iff.1 h).2

end Disk
end FactViews
