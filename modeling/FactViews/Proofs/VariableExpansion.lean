import Mathlib.Data.List.Forall2
import Mathlib.Data.List.TakeWhile
import FactViews.Settings.Variables

/-! # The grammar of references

A text with references is a sequence of segments: single characters, dollar signs that begin no
reference, and references with or without braces. Which segments can follow each other is said by
`Segment.Fits`, and every text is spelled by exactly one list of fitting segments. Replacing the
references of a text is a matter of its segments: each stands for something or is at fault, and the
first one at fault decides. Two texts can be expanded apart if no segment reaches over the seam. -/

namespace FactViews.Reference
open Text

/-! ## Segments -/

theorem isNameChar_eq_true_iff :
    isNameChar c = true ↔ isAlphanumeric c = true ∨ c = '_' := by
  simp [isNameChar]

theorem isNameChar_eq_false_iff :
    isNameChar c = false ↔ isAlphanumeric c = false ∧ c ≠ '_' := by
  simp [isNameChar]

inductive Segment where
  | literal (c : Char)
  /-- A dollar sign that begins no reference. -/
  | dollar
  | braced (name : String)
  | plain (name : String)
  /-- A reference without its closing brace. -/
  | unclosed (rest : String)
deriving DecidableEq, Repr

namespace Segment

/-- How a segment is written. -/
def chars : Segment → List Char
  | .literal c => [c]
  | .dollar => ['$']
  | .braced name => '$' :: '\x7b' :: name.toList ++ ['\x7d']
  | .plain name => '$' :: name.toList
  | .unclosed rest => '$' :: '\x7b' :: rest.toList

/-- The rule for a segment before the rest of a text. A name without braces is made of letters,
digits and underscores, and none of these follows it. -/
def Fits : Segment → List Char → Prop
  | .literal c, _ => c ≠ '$'
  | .dollar, rest => ∀ c ∈ rest.head?, c ≠ '\x7b' ∧ isAlphanumeric c = false ∧ c ≠ '_'
  | .braced name, _ => '\x7d' ∉ name.toList
  | .plain name, rest =>
    name ≠ "" ∧ (∀ c ∈ name.toList, isAlphanumeric c = true ∨ c = '_') ∧
      ∀ c ∈ rest.head?, isAlphanumeric c = false ∧ c ≠ '_'
  | .unclosed text, rest => '\x7d' ∉ text.toList ∧ rest = []

def piece : Segment → Piece
  | .literal c => .literal c
  | .dollar => .literal '$'
  | .braced name => .variable name
  | .plain name => .variable name
  | .unclosed _ => .unclosed

/-- The segment at the beginning of a text, and the rest. -/
def first? : List Char → Option (Segment × List Char)
  | [] => none
  | '$' :: '\x7b' :: rest =>
    if rest.contains '\x7d' then
      some (.braced (String.ofList (rest.takeWhile (· ≠ '\x7d'))),
        (rest.dropWhile (· ≠ '\x7d')).drop 1)
    else some (.unclosed (String.ofList rest), [])
  | '$' :: rest =>
    let name := rest.takeWhile isNameChar
    if name = [] then some (.dollar, rest)
    else some (.plain (String.ofList name), rest.dropWhile isNameChar)
  | c :: rest => some (.literal c, rest)

theorem pieces_of_first? (h : first? cs = some (seg, rest)) :
    pieces cs = seg.piece :: pieces rest := by
  rw [first?.eq_def] at h
  split at h
  · cases h
  · rw [pieces]
    split at h
    · next hclosed =>
      cases h
      rw [if_pos hclosed, piece]
    · next hopen =>
      cases h
      rw [if_neg hopen, piece, pieces]
  · next hbrace =>
    rw [pieces.eq_3 _ hbrace]
    simp only at h
    split at h
    · next hname =>
      cases h
      rw [if_pos hname, piece]
    · next hname =>
      cases h
      rw [if_neg hname, piece]
  · next hbrace hdollar =>
    cases h
    rw [pieces.eq_4 _ _ hbrace hdollar, piece]

/-- The longest run at the beginning of a list ends where a part with the property ends. -/
theorem takeWhile_append_of_boundary {p : Char → Bool} {cs rest : List Char}
    (hcs : ∀ c ∈ cs, p c = true) (hrest : ∀ c ∈ rest.head?, p c = false) :
    (cs ++ rest).takeWhile p = cs ∧ (cs ++ rest).dropWhile p = rest := by
  rw [List.takeWhile_append_of_pos hcs, List.dropWhile_append_of_pos hcs]
  cases rest with
  | nil => simp
  | cons c rest =>
    have hc : p c = false := hrest c rfl
    simp [hc]

theorem first?_chars_append {seg : Segment} (h : seg.Fits rest) :
    first? (seg.chars ++ rest) = some (seg, rest) := by
  cases seg with
  | literal c =>
    have hc : c = '$' → False := h
    exact first?.eq_4 c rest (fun _ hc' _ => hc hc') hc
  | dollar =>
    have hbrace : ∀ cs, rest = '\x7b' :: cs → False := by
      rintro cs rfl
      exact (h _ rfl).1 rfl
    have hname : ([] ++ rest).takeWhile isNameChar = [] :=
      (takeWhile_append_of_boundary (List.forall_mem_nil _) fun c hc =>
        isNameChar_eq_false_iff.2 (h c hc).2).1
    rw [List.nil_append] at hname
    simp only [chars, List.singleton_append, first?.eq_3 rest hbrace, hname, if_true]
  | braced name =>
    have hname : ∀ c ∈ name.toList, decide (c ≠ '\x7d') = true := by
      intro c hc
      refine decide_eq_true ?_
      rintro rfl
      exact h hc
    have hbrace : ∀ c ∈ ('\x7d' :: rest).head?, decide (c ≠ '\x7d') = false := by simp
    obtain ⟨htake, hdrop⟩ := takeWhile_append_of_boundary hname hbrace
    have htext : (braced name).chars ++ rest =
        '$' :: '\x7b' :: (name.toList ++ '\x7d' :: rest) := by simp [chars]
    rw [htext, first?, if_pos (by simp), htake, hdrop, String.ofList_toList]
    rfl
  | plain name =>
    obtain ⟨hne, hchars, hrest⟩ := h
    simp only [← isNameChar_eq_true_iff, ← isNameChar_eq_false_iff] at hchars hrest
    obtain ⟨htake, hdrop⟩ := takeWhile_append_of_boundary hchars hrest
    have hne' : name.toList ≠ [] := mt String.toList_eq_nil_iff.1 hne
    have hbrace : ∀ cs, name.toList ++ rest = '\x7b' :: cs → False := by
      intro cs heq
      obtain ⟨c, cs', hcs'⟩ := List.exists_cons_of_ne_nil hne'
      rw [hcs', List.cons_append] at heq
      have hc : isNameChar '\x7b' = true :=
        (List.cons.inj heq).1 ▸ hchars c (hcs' ▸ List.mem_cons_self)
      revert hc
      decide
    simp only [chars, List.cons_append, first?.eq_3 _ hbrace, htake, hdrop, if_neg hne',
      String.ofList_toList]
  | unclosed text =>
    obtain ⟨htext, rfl⟩ := h
    simp [chars, first?, htext]

/-- Every text begins with a segment. -/
theorem exists_fits (h : cs ≠ []) :
    ∃ (seg : Segment) (rest : List Char), cs = seg.chars ++ rest ∧ seg.Fits rest := by
  obtain ⟨c, cs, rfl⟩ := List.exists_cons_of_ne_nil h
  by_cases hc : c = '$'
  · subst hc
    by_cases hbrace : cs.head? = some '\x7b'
    · obtain ⟨cs, rfl⟩ := List.head?_eq_some_iff.1 hbrace
      by_cases hclosed : '\x7d' ∈ cs
      · obtain ⟨name, rest, rfl, hname⟩ := List.eq_append_cons_of_mem hclosed
        exact ⟨.braced (String.ofList name), rest, by simp [chars], by simpa [Fits] using hname⟩
      · exact ⟨.unclosed (String.ofList cs), [], by simp [chars], by simpa [Fits] using hclosed⟩
    · have hend : ∀ c ∈ (cs.dropWhile isNameChar).head?, isNameChar c = false := by
        intro c hc
        have := List.head?_dropWhile_not isNameChar cs
        rw [Option.mem_def.1 hc] at this
        exact this
      by_cases hname : cs.takeWhile isNameChar = []
      · refine ⟨.dollar, cs, rfl, fun c hc => ⟨?_, isNameChar_eq_false_iff.1 (hend c ?_)⟩⟩
        · rintro rfl
          exact hbrace hc
        · rw [← List.takeWhile_append_dropWhile (p := isNameChar) (l := cs), hname] at hc
          exact hc
      · refine ⟨.plain (String.ofList (cs.takeWhile isNameChar)), cs.dropWhile isNameChar, ?_, ?_⟩
        · simp [chars]
        · refine ⟨by simpa using hname, fun c hc => ?_,
            fun c hc => isNameChar_eq_false_iff.1 (hend c hc)⟩
          rw [String.toList_ofList] at hc
          exact isNameChar_eq_true_iff.1 (List.mem_takeWhile_imp hc)
  · exact ⟨.literal c, cs, rfl, hc⟩

theorem chars_ne_nil (seg : Segment) : seg.chars ≠ [] := by
  cases seg <;> simp [chars]

/-- Where something follows a segment, only its beginning matters. -/
theorem Fits.append {seg : Segment} (h : seg.Fits rest) (hrest : rest ≠ []) (more : List Char) :
    seg.Fits (rest ++ more) := by
  have hhead : (rest ++ more).head? = rest.head? := by
    obtain ⟨c, cs, rfl⟩ := List.exists_cons_of_ne_nil hrest
    rfl
  cases seg with
  | literal c => exact h
  | dollar =>
    rw [Fits, hhead]
    exact h
  | braced name => exact h
  | plain name =>
    rw [Fits, hhead]
    exact h
  | unclosed text => exact (hrest h.2).elim

/-- What a segment stands for. -/
inductive StandsFor (env : Environment) : Segment → List Char → Prop where
  | literal (c : Char) : StandsFor env (.literal c) [c]
  | dollar : StandsFor env .dollar ['$']
  | braced {name value : String} : env.get? name = some value →
    StandsFor env (.braced name) value.toList
  | plain {name value : String} : env.get? name = some value →
    StandsFor env (.plain name) value.toList

/-- Why a segment of a text cannot be replaced. -/
inductive Offends (env : Environment) (text : String) : Segment → Fault → Prop where
  | unclosed (rest : String) : Offends env text (.unclosed rest) (.unclosed text)
  | braced {name : String} : env.get? name = none → Offends env text (.braced name) (.missing name)
  | plain {name : String} : env.get? name = none → Offends env text (.plain name) (.missing name)

/-- The variable to which a segment refers. -/
def reference? : Segment → Option String
  | .braced name => some name
  | .plain name => some name
  | _ => none

end Segment

/-! ## Texts as lists of segments -/

open Segment

/-- The text that segments make up. -/
def spell (segs : List Segment) : List Char := segs.flatMap chars

/-- Every segment fits to what follows it. -/
def Segmented : List Segment → Prop
  | [] => True
  | seg :: segs => seg.Fits (spell segs) ∧ Segmented segs

theorem spell_cons (seg : Segment) (segs : List Segment) :
    spell (seg :: segs) = seg.chars ++ spell segs := rfl

theorem spell_append (segs segs' : List Segment) :
    spell (segs ++ segs') = spell segs ++ spell segs' := List.flatMap_append

theorem spell_eq_nil_iff : spell segs = [] ↔ segs = [] := by
  cases segs with
  | nil => simp [spell]
  | cons seg segs => simp [spell_cons, seg.chars_ne_nil]

theorem exists_segmented (cs : List Char) : ∃ segs, Segmented segs ∧ spell segs = cs := by
  induction hn : cs.length using Nat.strong_induction_on generalizing cs with
  | _ n ih =>
    by_cases hcs : cs = []
    · exact ⟨[], trivial, hcs.symm⟩
    · obtain ⟨seg, rest, rfl, hfits⟩ := exists_fits hcs
      have hlength := List.length_pos_iff.2 seg.chars_ne_nil
      rw [List.length_append] at hn
      obtain ⟨segs, hsegs, rfl⟩ := ih rest.length (by omega) rest rfl
      exact ⟨seg :: segs, ⟨hfits, hsegs⟩, rfl⟩

theorem Segmented.unique (h : Segmented segs) (h' : Segmented segs')
    (heq : spell segs = spell segs') : segs = segs' := by
  induction segs generalizing segs' with
  | nil => exact (spell_eq_nil_iff.1 heq.symm).symm
  | cons seg segs ih =>
    cases segs' with
    | nil => exact (List.cons_ne_nil seg segs (spell_eq_nil_iff.1 heq)).elim
    | cons seg' segs' =>
      have hfirst := first?_chars_append h.1
      rw [← spell_cons, heq, spell_cons, first?_chars_append h'.1] at hfirst
      obtain ⟨rfl, hrest⟩ := Prod.mk.inj (Option.some.inj hfirst)
      rw [ih h.2 h'.2 hrest.symm]

theorem pieces_spell (h : Segmented segs) : pieces (spell segs) = segs.map piece := by
  induction segs with
  | nil => rw [spell, List.flatMap_nil, pieces, List.map_nil]
  | cons seg segs ih =>
    rw [spell_cons, pieces_of_first? (first?_chars_append h.1), ih h.2, List.map_cons]

/-- Segments can be put together where the last one fits to what comes next. -/
theorem Segmented.append (h : Segmented segs) (h' : Segmented segs')
    (hseam : ∀ seg, segs.getLast? = some seg → seg.Fits (spell segs')) :
    Segmented (segs ++ segs') := by
  induction segs with
  | nil => exact h'
  | cons seg segs ih =>
    cases segs with
    | nil => exact ⟨hseam seg rfl, h'⟩
    | cons seg₁ segs =>
      have hfits : seg.Fits (spell (seg₁ :: segs ++ segs')) := by
        rw [spell_append]
        exact h.1.append (mt spell_eq_nil_iff.1 (List.cons_ne_nil _ _)) _
      refine ⟨hfits, ih h.2 fun seg' hlast => hseam seg' ?_⟩
      rw [List.getLast?_cons_cons, hlast]

/-! ## Replacing references -/

section Substitution
variable {env env' : Environment} {text : String} {segs : List Segment} {fault : Fault}

theorem substitute_cons_of_standsFor {seg : Segment} (h : seg.StandsFor env value)
    (ps : List Piece) :
    substitute env text (seg.piece :: ps) = (substitute env text ps).map (value ++ ·) := by
  cases h with
  | literal c => rfl
  | dollar => rfl
  | braced hget => rw [piece, substitute, hget]
  | plain hget => rw [piece, substitute, hget]

theorem substitute_cons_of_offends {seg : Segment} (h : seg.Offends env text fault)
    (ps : List Piece) : substitute env text (seg.piece :: ps) = .error fault := by
  cases h with
  | unclosed rest => rfl
  | braced hget => rw [piece, substitute, hget]
  | plain hget => rw [piece, substitute, hget]

theorem Segment.standsFor_or_offends (env : Environment) (text : String) (seg : Segment) :
    (∃ value, seg.StandsFor env value) ∨ ∃ fault, seg.Offends env text fault := by
  cases seg with
  | literal c => exact .inl ⟨[c], .literal c⟩
  | dollar => exact .inl ⟨['$'], .dollar⟩
  | braced name =>
    cases hget : env.get? name with
    | none => exact .inr ⟨.missing name, .braced hget⟩
    | some value => exact .inl ⟨value.toList, .braced hget⟩
  | plain name =>
    cases hget : env.get? name with
    | none => exact .inr ⟨.missing name, .plain hget⟩
    | some value => exact .inl ⟨value.toList, .plain hget⟩
  | unclosed rest => exact .inr ⟨.unclosed text, .unclosed rest⟩

theorem substitute_append (env : Environment) (text : String) (ps qs : List Piece) :
    substitute env text (ps ++ qs) =
      (substitute env text ps).bind fun cs => (substitute env text qs).map (cs ++ ·) := by
  induction ps with
  | nil =>
    rw [List.nil_append, substitute]
    cases substitute env text qs <;> rfl
  | cons p ps ih =>
    rcases p with c | name | _
    · rw [List.cons_append, substitute, substitute, ih]
      cases substitute env text ps <;> cases substitute env text qs <;> rfl
    · rw [List.cons_append, substitute, substitute, ih]
      cases env.get? name with
      | none => rfl
      | some value =>
        cases substitute env text ps <;> cases substitute env text qs <;>
          simp [Except.map, Except.bind]
    · rfl

/-- All segments stand for something, or one is the first at fault. -/
theorem standsFor_or_firstOffends (env : Environment) (text : String) (segs : List Segment) :
    (∃ values, List.Forall₂ (StandsFor env) segs values) ∨
    ∃ before seg after values fault, segs = before ++ seg :: after ∧
      List.Forall₂ (StandsFor env) before values ∧ seg.Offends env text fault := by
  induction segs with
  | nil => exact .inl ⟨[], .nil⟩
  | cons seg segs ih =>
    rcases seg.standsFor_or_offends env text with ⟨value, hvalue⟩ | ⟨fault, hfault⟩
    · rcases ih with ⟨values, hvalues⟩ | ⟨before, seg', after, values, fault, rfl, hbefore, hseg'⟩
      · exact .inl ⟨value :: values, .cons hvalue hvalues⟩
      · exact .inr ⟨seg :: before, seg', after, value :: values, fault, rfl,
          .cons hvalue hbefore, hseg'⟩
    · exact .inr ⟨[], seg, segs, [], fault, rfl, .nil, hfault⟩

theorem substitute_of_standsFor {values : List (List Char)}
    (h : List.Forall₂ (StandsFor env) segs values) :
    substitute env text (segs.map piece) = .ok values.flatten := by
  induction h with
  | nil => rfl
  | cons hseg _ ih =>
    rw [List.map_cons, substitute_cons_of_standsFor hseg, ih]
    rfl

theorem substitute_of_firstOffends {before after : List Segment} {values : List (List Char)}
    {seg : Segment} (h : List.Forall₂ (StandsFor env) before values)
    (hseg : seg.Offends env text fault) :
    substitute env text ((before ++ seg :: after).map piece) = .error fault := by
  rw [List.map_append, List.map_cons, substitute_append, substitute_of_standsFor h,
    substitute_cons_of_offends hseg]
  rfl

theorem expand_eq_ok_iff (hsegs : Segmented segs) (hs : spell segs = s.toList) :
    expand env s = .ok text ↔ ∃ values, List.Forall₂ (StandsFor env) segs values ∧
      text = String.ofList values.flatten := by
  rw [expand, ← hs, pieces_spell hsegs]
  constructor
  · intro h
    rcases standsFor_or_firstOffends env s segs with
      ⟨values, hvalues⟩ | ⟨before, seg, after, values, fault, rfl, hbefore, hseg⟩
    · rw [substitute_of_standsFor hvalues] at h
      exact ⟨values, hvalues, (Except.ok.inj h).symm⟩
    · rw [substitute_of_firstOffends hbefore hseg] at h
      cases h
  · rintro ⟨values, hvalues, rfl⟩
    rw [substitute_of_standsFor hvalues]
    rfl

theorem expand_eq_error_iff (hsegs : Segmented segs) (hs : spell segs = s.toList) :
    expand env s = .error fault ↔ ∃ before seg after values, segs = before ++ seg :: after ∧
      List.Forall₂ (StandsFor env) before values ∧ seg.Offends env s fault := by
  rw [expand, ← hs, pieces_spell hsegs]
  constructor
  · intro h
    rcases standsFor_or_firstOffends env s segs with
      ⟨values, hvalues⟩ | ⟨before, seg, after, values, fault', rfl, hbefore, hseg⟩
    · rw [substitute_of_standsFor hvalues] at h
      cases h
    · rw [substitute_of_firstOffends hbefore hseg] at h
      cases h
      exact ⟨before, seg, after, values, rfl, hbefore, hseg⟩
  · rintro ⟨before, seg, after, values, rfl, hbefore, hseg⟩
    rw [substitute_of_firstOffends hbefore hseg]
    rfl

theorem exists_standsFor_iff {seg : Segment} :
    (∃ value, seg.StandsFor env value) ↔ (∀ rest, seg ≠ .unclosed rest) ∧
      ∀ name, seg.reference? = some name → ∃ value, env.get? name = some value := by
  constructor
  · rintro ⟨value, h⟩
    cases h with
    | literal c => exact ⟨nofun, nofun⟩
    | dollar => exact ⟨nofun, nofun⟩
    | braced hget =>
      refine ⟨nofun, fun name hname => ?_⟩
      cases hname
      exact ⟨_, hget⟩
    | plain hget =>
      refine ⟨nofun, fun name hname => ?_⟩
      cases hname
      exact ⟨_, hget⟩
  · rintro ⟨hclosed, hset⟩
    rcases seg.standsFor_or_offends env "" with hvalue | ⟨fault, hfault⟩
    · exact hvalue
    · cases hfault with
      | unclosed rest => exact (hclosed rest rfl).elim
      | braced hget =>
        obtain ⟨value, hvalue⟩ := hset _ rfl
        cases hget.symm.trans hvalue
      | plain hget =>
        obtain ⟨value, hvalue⟩ := hset _ rfl
        cases hget.symm.trans hvalue

/-- The variables to which segments refer. -/
def references (segs : List Segment) : List String := segs.filterMap reference?

theorem exists_forall₂_iff {R : α → β → Prop} {l : List α} :
    (∃ l', List.Forall₂ R l l') ↔ ∀ a ∈ l, ∃ b, R a b := by
  induction l with
  | nil => simp
  | cons a l ih =>
    rw [List.forall_mem_cons, ← ih]
    constructor
    · rintro ⟨l', h⟩
      cases h with
      | cons hb hl => exact ⟨⟨_, hb⟩, _, hl⟩
    · rintro ⟨⟨b, hb⟩, l', hl⟩
      exact ⟨b :: l', .cons hb hl⟩

theorem exists_forall₂_standsFor_iff :
    (∃ values, List.Forall₂ (StandsFor env) segs values) ↔ (∀ rest, .unclosed rest ∉ segs) ∧
      ∀ name ∈ references segs, ∃ value, env.get? name = some value := by
  simp only [exists_forall₂_iff, exists_standsFor_iff, references, List.mem_filterMap]
  constructor
  · intro h
    refine ⟨fun rest hmem => (h _ hmem).1 rest rfl, ?_⟩
    rintro name ⟨seg, hseg, hname⟩
    exact (h seg hseg).2 name hname
  · rintro ⟨hclosed, hset⟩ seg hseg
    refine ⟨?_, fun name hname => hset name ⟨seg, hseg, hname⟩⟩
    rintro rest rfl
    exact hclosed rest hseg

/-- Only the variables that are referred to matter. -/
theorem substitute_congr (h : ∀ name ∈ references segs, env.get? name = env'.get? name) :
    substitute env text (segs.map piece) = substitute env' text (segs.map piece) := by
  induction segs with
  | nil => rfl
  | cons seg segs ih =>
    have hseg : ∀ name, seg.reference? = some name → env.get? name = env'.get? name := by
      intro name hname
      exact h name (List.mem_filterMap.2 ⟨seg, List.mem_cons_self, hname⟩)
    have hrest := ih fun name hname => h name (by
      obtain ⟨seg', hseg', hname'⟩ := List.mem_filterMap.1 hname
      exact List.mem_filterMap.2 ⟨seg', List.mem_cons_of_mem _ hseg', hname'⟩)
    rw [List.map_cons]
    cases seg with
    | literal c => rw [piece, substitute, substitute, hrest]
    | dollar => rw [piece, substitute, substitute, hrest]
    | braced name => rw [piece, substitute, substitute, hrest, hseg name rfl]
    | plain name => rw [piece, substitute, substitute, hrest, hseg name rfl]
    | unclosed rest => rfl

end Substitution

/-! ## Seams -/

/-- The same fault in another text. -/
def Fault.within (text : String) : Fault → Fault
  | .missing name => .missing name
  | .unclosed _ => .unclosed text

theorem substitute_within (env : Environment) (text text' : String) (ps : List Piece) :
    substitute env text' ps = (substitute env text ps).mapError (Fault.within text') := by
  induction ps with
  | nil => rfl
  | cons p ps ih =>
    rcases p with c | name | _
    · rw [substitute, substitute, ih]
      cases substitute env text ps <;> rfl
    · rw [substitute, substitute, ih]
      cases env.get? name with
      | none => rfl
      | some value => cases substitute env text ps <;> rfl
    · rfl

/-- No reference reaches from the segments of a text into another text. -/
structure Apart (segs : List Segment) (t : String) : Prop where
  closed : ∀ rest, .unclosed rest ∉ segs
  dollar : segs.getLast? = some .dollar →
    ∀ c ∈ t.toList.head?, c ≠ '\x7b' ∧ isAlphanumeric c = false ∧ c ≠ '_'
  plain : ∀ name, segs.getLast? = some (.plain name) →
    ∀ c ∈ t.toList.head?, isAlphanumeric c = false ∧ c ≠ '_'

theorem Segmented.fits_nil (h : Segmented segs) (hlast : segs.getLast? = some seg) :
    seg.Fits [] := by
  induction segs with
  | nil => cases hlast
  | cons seg₀ segs ih =>
    cases segs with
    | nil =>
      cases hlast
      exact h.1
    | cons seg₁ segs =>
      rw [List.getLast?_cons_cons] at hlast
      exact ih h.2 hlast

theorem Apart.fits (h : Apart segs t) (hsegs : Segmented segs)
    (hlast : segs.getLast? = some seg) : seg.Fits t.toList := by
  have hfits := hsegs.fits_nil hlast
  cases seg with
  | literal c => exact hfits
  | dollar => exact h.dollar hlast
  | braced name => exact hfits
  | plain name => exact ⟨hfits.1, hfits.2.1, h.plain name hlast⟩
  | unclosed rest => exact (h.closed rest (List.mem_of_getLast? hlast)).elim

theorem expand_append (hsegs : Segmented segs) (hs : spell segs = s.toList) (h : Apart segs t)
    (env : Environment) :
    expand env (s ++ t) = ((expand env s).bind fun a => (expand env t).map (a ++ ·)).mapError
      (Fault.within (s ++ t)) := by
  obtain ⟨segs', hsegs', ht⟩ := exists_segmented t.toList
  have happend : Segmented (segs ++ segs') := hsegs.append hsegs' fun seg hlast => by
    rw [ht]
    exact h.fits hsegs hlast
  have hpieces : pieces (s ++ t).toList = segs.map piece ++ segs'.map piece := by
    rw [String.toList_append, ← hs, ← ht, ← spell_append, pieces_spell happend, List.map_append]
  rw [expand, hpieces, substitute_append, substitute_within env s (s ++ t) (segs.map piece),
    substitute_within env t (s ++ t) (segs'.map piece), expand, expand, ← hs, ← ht,
    pieces_spell hsegs, pieces_spell hsegs']
  cases substitute env s (segs.map piece) with
  | error fault => rfl
  | ok a =>
    cases substitute env t (segs'.map piece) with
    | error fault => rfl
    | ok b => simp [Except.map, Except.bind, Except.mapError, String.ofList_append]

/-! ## The expansion of a text -/

/-- No variable has the empty name. -/
theorem get?_empty (env : Environment) : env.get? "" = none := rfl

/-- The segments of a text and what they mean for its expansion. -/
structure Describes (segs : List Segment) (s : String) : Prop where
  segmented : Segmented segs
  spelled : spell segs = s.toList
  unique : ∀ segs', Segmented segs' → spell segs' = s.toList → segs' = segs
  /-- The expansion is made up of what the segments stand for. -/
  ok : ∀ env text, expand env s = .ok text ↔ ∃ values,
    List.Forall₂ (StandsFor env) segs values ∧ text = String.ofList values.flatten
  ok_iff : ∀ env, (∃ text, expand env s = .ok text) ↔ (∀ rest, .unclosed rest ∉ segs) ∧
    ∀ name ∈ references segs, ∃ value, env.get? name = some value
  /-- The first segment at fault decides, whatever comes after it. -/
  error : ∀ env fault, expand env s = .error fault ↔ ∃ before seg after values,
    segs = before ++ seg :: after ∧ List.Forall₂ (StandsFor env) before values ∧
      seg.Offends env s fault
  depends : ∀ env env' : Environment,
    (∀ name ∈ references segs, env.get? name = env'.get? name) → expand env s = expand env' s
  append : ∀ env t, Apart segs t → expand env (s ++ t) =
    ((expand env s).bind fun a => (expand env t).map (a ++ ·)).mapError (Fault.within (s ++ t))

theorem expand_described (s : String) :
    (∃ segs, Describes segs s) ∧ ∀ env : Environment, env.get? "" = none := by
  obtain ⟨segs, hsegs, hs⟩ := exists_segmented s.toList
  refine ⟨⟨segs, ?_⟩, get?_empty⟩
  constructor
  case segmented => exact hsegs
  case spelled => exact hs
  case unique =>
    intro segs' hsegs' hs'
    exact hsegs'.unique hsegs (hs'.trans hs.symm)
  case ok =>
    intro env text
    exact expand_eq_ok_iff hsegs hs
  case ok_iff =>
    intro env
    simp only [expand_eq_ok_iff hsegs hs, ← exists_forall₂_standsFor_iff]
    constructor
    · rintro ⟨text, values, hvalues, -⟩
      exact ⟨values, hvalues⟩
    · rintro ⟨values, hvalues⟩
      exact ⟨_, values, hvalues, rfl⟩
  case error =>
    intro env fault
    exact expand_eq_error_iff hsegs hs
  case depends =>
    intro env env' henv
    rw [expand, expand, ← hs, pieces_spell hsegs, substitute_congr henv]
  case append =>
    intro env t hapart
    exact expand_append hsegs hs hapart env

/-- Two variables, one with a dollar sign in its value. -/
def homeEnvironment : Environment := ⟨[("HOME", "/srv/$X"), ("TEAM_é2", "blue")]⟩

/-- Two dollar signs, a reference in braces, a slash and a reference without braces. -/
def homeSegments : List Segment :=
  [.dollar, .dollar, .braced "HOME", .literal '/', .plain "TEAM_é2"]

theorem home_described :
    Describes homeSegments "$$$\x7bHOME\x7d/$TEAM_é2" ∧ Apart homeSegments "-$\x7bOUT" ∧
      expand homeEnvironment "$$$\x7bHOME\x7d/$TEAM_é2" = .ok "$$/srv/$X/blue" ∧
      expand homeEnvironment ("$$$\x7bHOME\x7d/$TEAM_é2" ++ "-$\x7bOUT") =
        .error (.unclosed ("$$$\x7bHOME\x7d/$TEAM_é2" ++ "-$\x7bOUT")) := by
  obtain ⟨⟨segs, hsegs⟩, -⟩ := expand_described "$$$\x7bHOME\x7d/$TEAM_é2"
  have hname : "TEAM_é2".toList.all isNameChar = true := by decide +kernel
  have hchars : ∀ c ∈ "TEAM_é2".toList, isAlphanumeric c = true ∨ c = '_' := fun c hc =>
    isNameChar_eq_true_iff.1 (List.all_eq_true.1 hname c hc)
  have hsegmented : Segmented homeSegments := by
    simp only [homeSegments, Segmented, Fits, spell]
    refine ⟨?_, ?_, by decide, by decide, ⟨by decide, hchars, nofun⟩, trivial⟩
    · intro c hc
      cases hc
      decide
    · intro c hc
      cases hc
      decide
  obtain rfl : homeSegments = segs := hsegs.unique homeSegments hsegmented rfl
  have hapart : Apart homeSegments "-$\x7bOUT" := by
    refine ⟨by simp [homeSegments], nofun, fun _ _ c hc => ?_⟩
    cases hc
    decide
  have hhome : homeEnvironment.get? "HOME" = some "/srv/$X" := by decide +kernel
  have hteam : homeEnvironment.get? "TEAM_é2" = some "blue" := by decide +kernel
  have hvalues : List.Forall₂ (StandsFor homeEnvironment) homeSegments
      [['$'], ['$'], "/srv/$X".toList, ['/'], "blue".toList] :=
    .cons .dollar (.cons .dollar (.cons (.braced hhome) (.cons (.literal '/')
      (.cons (.plain hteam) .nil))))
  have hok : expand homeEnvironment "$$$\x7bHOME\x7d/$TEAM_é2" = .ok "$$/srv/$X/blue" :=
    (hsegs.ok _ _).2 ⟨_, hvalues, rfl⟩
  have hopen : expand homeEnvironment "-$\x7bOUT" = .error (.unclosed "-$\x7bOUT") := by
    have hout : Segmented [.literal '-', .unclosed "OUT"] := by
      simp only [Segmented, Fits, spell]
      decide
    refine (expand_eq_error_iff hout rfl).2
      ⟨[.literal '-'], .unclosed "OUT", [], [['-']], rfl, ?_, .unclosed "OUT"⟩
    exact .cons (.literal '-') .nil
  refine ⟨hsegs, hapart, hok, ?_⟩
  rw [hsegs.append _ _ hapart, hok, hopen]
  rfl

end FactViews.Reference
