import Mathlib.Data.List.Forall2
import Mathlib.Data.List.Induction
import Mathlib.Data.List.Nodup
import FactViews.Catalog
import FactViews.Proofs.TextLemmas

/-! # Lemmas on catalogs

The entries of a catalog after an insertion or when it is filled from a list of names, the values
found in it, also after further insertions, and the catalog that a function makes of another one. -/

namespace FactViews.Catalog
open Text

theorem place_of_notMem {es : List (String × α)} (h : name ∉ es.map Prod.fst) :
    place name value es = es ++ [(name, value)] := by
  induction es with
  | nil => rfl
  | cons e es ih =>
    obtain ⟨hne, hes⟩ := not_or.1 (mt List.mem_cons.2 h)
    rw [place, if_neg (Ne.symm hne), ih hes, List.cons_append]

theorem mem_place {e : String × α} {es : List (String × α)} (h : e ∈ place name value es) :
    e = (name, value) ∨ e ∈ es := by
  induction es with
  | nil => exact .inl (List.mem_singleton.1 h)
  | cons e' es ih =>
    rw [place] at h
    split at h
    · next hname =>
      rcases List.mem_cons.1 h with rfl | hes
      · exact .inl (by rw [hname])
      · exact .inr (List.mem_cons_of_mem _ hes)
    · rcases List.mem_cons.1 h with rfl | hes
      · exact .inr List.mem_cons_self
      · exact (ih hes).imp_right (List.mem_cons_of_mem _)

/-- Where keys are distinct, a search for a key finds the element that has it. -/
theorem find?_key_eq_some_iff {key : α → String} {l : List α} (h : (l.map key).Nodup) :
    l.find? (fun a => key a = k) = some a ↔ a ∈ l ∧ key a = k := by
  constructor
  · intro hfind
    exact ⟨List.mem_of_find?_eq_some hfind, by simpa using List.find?_some hfind⟩
  · rintro ⟨ha, rfl⟩
    cases hfind : l.find? (fun b => key b = key a) with
    | none => exact (List.find?_eq_none.1 hfind a ha (by simp)).elim
    | some b =>
      have hb : key b = key a := by simpa using List.find?_some hfind
      rw [List.inj_on_of_nodup_map h (List.mem_of_find?_eq_some hfind) ha hb]

theorem find?_eq_some_iff {c : Catalog α} : c.find? name = some a ↔ (name, a) ∈ c.entries := by
  rw [find?, Option.map_eq_some_iff]
  constructor
  · rintro ⟨⟨n, b⟩, hfind, rfl⟩
    obtain ⟨hmem, rfl⟩ := (find?_key_eq_some_iff c.distinct).1 hfind
    exact hmem
  · intro hmem
    exact ⟨(name, a), (find?_key_eq_some_iff c.distinct).2 ⟨hmem, rfl⟩, rfl⟩

/-- Where every value stands under its own name, a value is found by that name. -/
theorem find?_eq_some_iff_of_named {c : Catalog α} {key : α → String}
    (h : ∀ e ∈ c.entries, key e.2 = e.1) : c.find? name = some a ↔ a ∈ c.values ∧ key a = name := by
  rw [find?_eq_some_iff]
  constructor
  · intro hmem
    exact ⟨List.mem_map_of_mem hmem, h _ hmem⟩
  · rintro ⟨hmem, rfl⟩
    obtain ⟨⟨n, a'⟩, he, rfl⟩ := List.mem_map.1 hmem
    have hname : key a' = n := h _ he
    rwa [hname]

theorem map_key_values_of_named {c : Catalog α} {key : α → String}
    (h : ∀ e ∈ c.entries, key e.2 = e.1) : c.values.map key = c.names := by
  rw [values, List.map_map, names]
  exact List.map_congr_left h

theorem find?_of_entries_eq_map {c : Catalog α} {g : String → α} {l : List String}
    (hc : c.entries = l.map fun m => (m, g m)) (a : String) :
    c.find? a = if a ∈ l then some (g a) else none := by
  split
  · next ha =>
    rw [find?_eq_some_iff, hc]
    exact List.mem_map_of_mem ha
  · next ha =>
    refine Option.eq_none_iff_forall_ne_some.2 fun v hv => ha ?_
    rw [find?_eq_some_iff, hc, List.mem_map] at hv
    obtain ⟨m, hm, heq⟩ := hv
    cases heq
    exact hm

/-- Placing the value that is there already changes nothing. -/
theorem place_map_of_mem (g : String → α) {l : List String} (h : a ∈ l) :
    place a (g a) (l.map fun m => (m, g m)) = l.map fun m => (m, g m) := by
  induction l with
  | nil => cases h
  | cons b l ih =>
    by_cases hb : b = a
    · simp [place, hb]
    · have ha : a ∈ l := (List.mem_cons.1 h).resolve_left (Ne.symm hb)
      simp [place, hb, ih ha]

/-- Placing another value changes it at its name, where names are distinct. -/
theorem place_map_of_nodup (g : String → α) {l : List String} (hl : l.Nodup) (h : a ∈ l) :
    place a v (l.map fun m => (m, g m)) = l.map fun m => (m, if m = a then v else g m) := by
  induction l with
  | nil => cases h
  | cons b l ih =>
    obtain ⟨hb, hl⟩ := List.nodup_cons.1 hl
    by_cases hba : b = a
    · subst hba
      have hrest : ∀ m ∈ l, (m, g m) = (m, if m = b then v else g m) := by
        intro m hm
        rw [if_neg (ne_of_mem_of_not_mem hm hb)]
      simp [place, List.map_congr_left hrest]
    · have ha : a ∈ l := (List.mem_cons.1 h).resolve_left (Ne.symm hba)
      simp [place, hba, ih hl ha]

theorem entries_insertAll_concat (c : Catalog α) (es : List (String × α)) (e : String × α) :
    (c.insertAll (es ++ [e])).entries = place e.1 e.2 (c.insertAll es).entries := by
  rw [insertAll, List.foldl_append]
  rfl

/-- A repeated name is placed once, where it came first. -/
theorem entries_ofList_map (g : String → α) (l : List String) :
    (ofList (l.map fun m => (m, g m))).entries =
      (firstOccurrences l).map fun m => (m, g m) := by
  induction l using List.reverseRecOn with
  | nil => rfl
  | append_singleton l a ih =>
    rw [List.map_append, List.map_singleton, ofList, entries_insertAll_concat, ← ofList, ih,
      firstOccurrences_concat]
    split
    · next ha => rw [place_map_of_mem g (mem_firstOccurrences.2 ha)]
    · next ha =>
      rw [place_of_notMem (by simpa [Function.comp_def] using ha), List.map_append,
        List.map_singleton]

theorem find?_ofList_map (g : String → α) {l : List String} (h : a ∈ l) :
    (ofList (l.map fun m => (m, g m))).find? a = some (g a) := by
  rw [find?_of_entries_eq_map (entries_ofList_map g l), if_pos (mem_firstOccurrences.2 h)]

theorem map_fst_map (f : String → α → β) (es : List (String × α)) :
    (es.map fun e => (e.1, f e.1 e.2)).map Prod.fst = es.map Prod.fst := by
  simp [Function.comp_def]

/-- Changes every value and keeps the names. -/
def map (f : String → α → β) (c : Catalog α) : Catalog β :=
  ⟨c.entries.map fun e => (e.1, f e.1 e.2), by rw [map_fst_map]; exact c.distinct⟩

theorem ext {c c' : Catalog α} (h : c.entries = c'.entries) : c = c' := by
  cases c
  cases c'
  cases h
  rfl

theorem map_map_of_forall {f : String → α → β} {g : String → β → α} {c : Catalog α}
    (h : ∀ e ∈ c.entries, g e.1 (f e.1 e.2) = e.2) : (c.map f).map g = c := by
  have hentries : ∀ e ∈ c.entries, (e.1, g e.1 (f e.1 e.2)) = id e := by
    intro e he
    exact Prod.ext rfl (h e he)
  refine ext ?_
  simp only [map, List.map_map, Function.comp_def]
  rw [List.map_congr_left hentries, List.map_id]

/-- Entries under new and distinct names go last, in order. -/
theorem entries_insertAll_of_nodup {c : Catalog α} {es : List (String × α)}
    (h : ((c.entries ++ es).map Prod.fst).Nodup) : (c.insertAll es).entries = c.entries ++ es := by
  induction es generalizing c with
  | nil => exact (List.append_nil _).symm
  | cons e es ih =>
    have hnew : e.1 ∉ c.entries.map Prod.fst := by
      rw [List.map_append, List.map_cons] at h
      intro hmem
      exact (List.nodup_append.1 h).2.2 e.1 hmem e.1 List.mem_cons_self rfl
    have hinsert : (c.insert e.1 e.2).entries = c.entries ++ [e] := place_of_notMem hnew
    have hrest : (((c.insert e.1 e.2).entries ++ es).map Prod.fst).Nodup := by
      rw [hinsert, List.append_assoc]
      exact h
    calc (c.insertAll (e :: es)).entries
        = ((c.insert e.1 e.2).insertAll es).entries := rfl
      _ = c.entries ++ [e] ++ es := by rw [ih hrest, hinsert]
      _ = c.entries ++ e :: es := List.append_assoc ..

theorem ofList_entries (c : Catalog α) : ofList c.entries = c :=
  ext (entries_insertAll_of_nodup c.distinct)

theorem find?_place (name : String) (value : α) (es : List (String × α)) (n : String) :
    ((place name value es).find? (·.1 = n)).map Prod.snd =
      if n = name then some value else (es.find? (·.1 = n)).map Prod.snd := by
  induction es with
  | nil => by_cases hn : n = name <;> simp [place, hn, eq_comm]
  | cons e es ih =>
    by_cases he : e.1 = name
    · by_cases hn : n = name
      · simp [place, he, hn]
      · simp [place, he, hn, Ne.symm hn]
    · rw [place, if_neg he]
      by_cases hn : e.1 = n
      · have hne : n ≠ name := hn ▸ he
        simp [hn, hne]
      · simp [hn, ih]

theorem find?_insert (c : Catalog α) (name : String) (value : α) (n : String) :
    (c.insert name value).find? n = if n = name then some value else c.find? n :=
  find?_place name value c.entries n

theorem names_insert (c : Catalog α) (name : String) (value : α) :
    (c.insert name value).names = if name ∈ c.names then c.names else c.names ++ [name] :=
  map_fst_place name value c.entries

/-- Of the values that were added, the last one under a name. -/
def latest? (key : α → String) (added : List α) (name : String) : Option α :=
  (added.filter (key · = name)).getLast?

theorem latest?_append (key : α → String) (added later : List α) (name : String) :
    latest? key (added ++ later) name = (latest? key later name).or (latest? key added name) := by
  rw [latest?, List.filter_append, List.getLast?_append]
  rfl

theorem latest?_concat (key : α → String) (added : List α) (a : α) (name : String) :
    latest? key (added ++ [a]) name =
      if name = key a then some a else latest? key added name := by
  rw [latest?_append]
  split
  · next h => simp [latest?, h]
  · next h => simp [latest?, Ne.symm h]

theorem find?_insertAll (c : Catalog α) (es : List (String × α)) (name : String) :
    (c.insertAll es).find? name =
      ((latest? Prod.fst es name).map Prod.snd).or (c.find? name) := by
  induction es using List.reverseRecOn with
  | nil => rfl
  | append_singleton es e ih =>
    have hstep : c.insertAll (es ++ [e]) = (c.insertAll es).insert e.1 e.2 :=
      ext (entries_insertAll_concat c es e)
    rw [hstep, find?_insert, latest?_concat, ih]
    split <;> rfl

end FactViews.Catalog
