import FactViews.Text.Basic

/-! # Lemmas on first occurrences, endings, joined and cut texts

`firstOccurrences` splits over an append, where the second part loses what the first one has, and
lists values in the order in which they come first. A joined text is its first part followed by the
other ones, each after a separator. Parts without the separator come back when their joined text is
cut, and a text without it that is appended to another one stays whole. -/

namespace FactViews.Text

section FirstOccurrences
variable [DecidableEq α]

@[simp] theorem mem_firstOccurrences {a : α} {l : List α} : a ∈ firstOccurrences l ↔ a ∈ l := by
  induction l with
  | nil => simp [firstOccurrences]
  | cons b l ih => by_cases h : a = b <;> simp [firstOccurrences, ih, h]

theorem nodup_firstOccurrences (l : List α) : (firstOccurrences l).Nodup := by
  induction l with
  | nil => exact List.nodup_nil
  | cons a l ih =>
    refine List.nodup_cons.2 ⟨fun h => ?_, ih.filter _⟩
    simpa using (List.mem_filter.1 h).2

theorem firstOccurrences_of_nodup {l : List α} (h : l.Nodup) : firstOccurrences l = l := by
  induction l with
  | nil => rfl
  | cons a l ih =>
    obtain ⟨ha, hl⟩ := List.nodup_cons.1 h
    rw [firstOccurrences, ih hl, List.filter_eq_self.2]
    rintro b hb
    have hne : b ≠ a := fun hba => ha (hba ▸ hb)
    simpa using hne

/-- What the first list has is left out of the second. -/
theorem firstOccurrences_append (l l' : List α) :
    firstOccurrences (l ++ l') =
      firstOccurrences l ++ (firstOccurrences l').filter (!l.contains ·) := by
  induction l with
  | nil => exact (List.filter_eq_self.2 fun _ _ => rfl).symm
  | cons a l ih =>
    simp only [List.cons_append, firstOccurrences, ih, List.filter_append, List.filter_filter]
    congr 2
    refine List.filter_congr fun b _ => ?_
    by_cases hb : b = a <;> simp [hb]

theorem firstOccurrences_concat (l : List α) (a : α) :
    firstOccurrences (l ++ [a]) =
      if a ∈ l then firstOccurrences l else firstOccurrences l ++ [a] := by
  rw [firstOccurrences_append]
  by_cases ha : a ∈ l <;> simp [firstOccurrences, ha]

/-- Lists without a common element do not see each other. -/
theorem firstOccurrences_append_of_disjoint {l l' : List α} (h : ∀ a ∈ l', a ∉ l) :
    firstOccurrences (l ++ l') = firstOccurrences l ++ firstOccurrences l' := by
  rw [firstOccurrences_append]
  congr 1
  refine List.filter_eq_self.2 fun a ha => ?_
  simpa using h a (mem_firstOccurrences.1 ha)

/-- Of the values that a function gives on a list, the one that comes first stands first. -/
theorem pairwise_findIdx_filterMap (f : β → Option α) (l : List β) :
    (firstOccurrences (l.filterMap f)).Pairwise
      fun a b => l.findIdx (f · = some a) < l.findIdx (f · = some b) := by
  induction l with
  | nil => exact .nil
  | cons x l ih =>
    have hlater : ∀ a, f x ≠ some a →
        (x :: l).findIdx (f · = some a) = l.findIdx (f · = some a) + 1 := by
      intro a ha
      simp [List.findIdx_cons, ha]
    cases hx : f x with
    | none =>
      rw [hx] at hlater
      rw [List.filterMap_cons_none hx]
      refine ih.imp fun {a b} hab => ?_
      rw [hlater a nofun, hlater b nofun]
      omega
    | some first =>
      have hfirst : (x :: l).findIdx (f · = some first) = 0 := by simp [List.findIdx_cons, hx]
      have hothers : ∀ a ∈ (firstOccurrences (l.filterMap f)).filter (· ≠ first),
          (x :: l).findIdx (f · = some a) = l.findIdx (f · = some a) + 1 := by
        intro a ha
        refine hlater a fun heq => ?_
        rw [hx, Option.some.injEq] at heq
        simp [heq] at ha
      rw [List.filterMap_cons_some hx, firstOccurrences]
      refine List.pairwise_cons.2 ⟨fun a ha => ?_, ?_⟩
      · rw [hfirst, hothers a ha]
        omega
      · refine (ih.filter _).imp_of_mem fun {a b} ha hb hab => ?_
        rw [hothers a ha, hothers b hb]
        omega

theorem pairwise_idxOf_firstOccurrences (l : List α) :
    (firstOccurrences l).Pairwise fun a b => l.idxOf a < l.idxOf b := by
  have h := pairwise_findIdx_filterMap some l
  simp only [List.filterMap_some, Option.some.injEq] at h
  exact h

end FirstOccurrences

theorem endsIn_iff {ending s : String} : endsIn ending s = true ↔ ∃ stem, s = stem ++ ending := by
  rw [endsIn, List.isSuffixOf_iff_suffix]
  constructor
  · rintro ⟨cs, hcs⟩
    refine ⟨String.ofList cs, String.toList_inj.1 ?_⟩
    rw [String.toList_append, String.toList_ofList, hcs]
  · rintro ⟨stem, rfl⟩
    exact ⟨stem.toList, String.toList_append.symm⟩

theorem joinWith_cons (sep s : String) (rest : List String) :
    joinWith sep (s :: rest) = s ++ String.join (rest.map (sep ++ ·)) := by
  induction rest generalizing s with
  | nil => simp [joinWith]
  | cons t rest ih =>
    rw [joinWith_cons_cons, ih, List.map_cons, String.join_cons, String.append_assoc,
      String.append_assoc]

section SplitOn
variable {sep : Char} {s : String}

theorem splitChars_eq (cs : List Char) : splitChars sep cs = cs.splitOn sep := by
  induction cs with
  | nil => rfl
  | cons c cs ih =>
    rw [splitChars, ih, List.splitOn_cons_eq_if_modifyHead]
    by_cases hc : c = sep
    · simp [hc]
    · obtain ⟨part, parts, hparts⟩ := List.exists_cons_of_ne_nil (List.splitOn_ne_nil sep cs)
      simp [hc, hparts]

theorem splitOn_append_singleton (sep : Char) (s t : String) :
    splitOn sep (s ++ String.singleton sep ++ t) = splitOn sep s ++ splitOn sep t := by
  simp only [splitOn, splitChars_eq, String.toList_append, String.toList_singleton,
    List.append_assoc, List.singleton_append, List.splitOn_append_cons_self, List.map_append]

theorem splitOn_of_notMem (h : sep ∉ s.toList) : splitOn sep s = [s] := by
  rw [splitOn, splitChars_eq, List.splitOn_eq_singleton h, List.map_singleton, String.ofList_toList]

/-- What is appended without a separator belongs to the last part. -/
theorem splitOn_append_of_notMem {t : String} (h : sep ∉ t.toList) (s : String) :
    ∃ before last, splitOn sep (s ++ t) = before ++ [last ++ t] := by
  have hchars : ∀ cs : List Char, ∃ before last,
      splitChars sep (cs ++ t.toList) = before ++ [last ++ t.toList] := by
    intro cs
    induction cs with
    | nil =>
      refine ⟨[], [], ?_⟩
      rw [List.nil_append, splitChars_eq, List.splitOn_eq_singleton h]
      rfl
    | cons c cs ih =>
      obtain ⟨before, last, hparts⟩ := ih
      rw [List.cons_append, splitChars, hparts]
      split
      · exact ⟨[] :: before, last, rfl⟩
      · cases before with
        | nil => exact ⟨[], c :: last, rfl⟩
        | cons part before => exact ⟨(c :: part) :: before, last, rfl⟩
  obtain ⟨before, last, hparts⟩ := hchars s.toList
  refine ⟨before.map String.ofList, String.ofList last, ?_⟩
  rw [splitOn, String.toList_append, hparts, List.map_append, List.map_singleton,
    String.ofList_append, String.ofList_toList]

theorem notMem_of_mem_splitOn (h : part ∈ splitOn sep s) : sep ∉ part.toList := by
  obtain ⟨cs, hcs, rfl⟩ := List.mem_map.1 h
  rw [String.toList_ofList]
  clear h
  generalize s.toList = l at hcs
  induction l generalizing cs with
  | nil =>
    cases List.mem_singleton.1 hcs
    exact List.not_mem_nil
  | cons c l ih =>
    rw [splitChars_eq, List.splitOn_cons_eq_if_modifyHead, ← splitChars_eq] at hcs
    split at hcs
    · rcases List.mem_cons.1 hcs with rfl | hcs
      · exact List.not_mem_nil
      · exact ih cs hcs
    · next hc =>
      cases hparts : splitChars sep l with
      | nil =>
        rw [hparts] at hcs
        cases hcs
      | cons p parts =>
        rw [hparts] at ih hcs
        rcases List.mem_cons.1 hcs with rfl | hcs
        · have hp := ih p List.mem_cons_self
          have hne : sep ≠ c := fun h => hc (by simp [h])
          simp [hne, hp]
        · exact ih cs (List.mem_cons_of_mem _ hcs)

theorem splitOn_joinWith {parts : List String} (hne : parts ≠ [])
    (h : ∀ part ∈ parts, sep ∉ part.toList) :
    splitOn sep (joinWith (String.singleton sep) parts) = parts := by
  induction parts with
  | nil => exact (hne rfl).elim
  | cons part parts ih =>
    obtain ⟨hpart, hparts⟩ := List.forall_mem_cons.1 h
    cases parts with
    | nil => exact splitOn_of_notMem hpart
    | cons part' parts =>
      rw [joinWith_cons_cons, splitOn_append_singleton, splitOn_of_notMem hpart, ih nofun hparts]
      rfl

/-- What stands after the last separator tells where a text was put together. -/
theorem append_singleton_inj {s' t t' : String} (ht : sep ∉ t.toList) (ht' : sep ∉ t'.toList)
    (h : s ++ String.singleton sep ++ t = s' ++ String.singleton sep ++ t') : s = s' ∧ t = t' := by
  have hparts := congrArg (splitOn sep) h
  rw [splitOn_append_singleton, splitOn_append_singleton, splitOn_of_notMem ht,
    splitOn_of_notMem ht'] at hparts
  obtain ⟨-, hlast⟩ := List.append_inj' hparts rfl
  obtain rfl : t = t' := List.singleton_inj.1 hlast
  refine ⟨String.toList_inj.1 ?_, rfl⟩
  have hchars := congrArg String.toList h
  simp only [String.toList_append] at hchars
  exact List.append_cancel_right (List.append_cancel_right hchars)

end SplitOn

end FactViews.Text
