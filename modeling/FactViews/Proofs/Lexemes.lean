import Mathlib.Data.List.Chain
import FactViews.Dialect
import FactViews.Proofs.TextLemmas

/-! # Reading statements

`lex` reads a text as words, quoted names and marks, and skips white space and comments.
`unquote` copies a text without the quotes of its names. Both read a quoted name alike: a doubled
closing character stands for one, a single one ends the name.

A `Lexeme` is a token or white space. A list of lexemes is `Readable` when every lexeme is made of
the right characters and, of two neighbours, one is a mark or white space. However a readable list
is quoted, and whatever its names are, `lex` finds its tokens (`lexChars_spell`) and `unquote` its
unquoted text (`unquoteChars_spell`). -/

namespace FactViews.Sql
open Text

/-! ## Quoted names -/

/-- Whether a character begins a quoted name. -/
def opens : Quoting → Char → Bool
  | .verbatim, _ => false
  | .enclosed opening _, c => c = opening

/-- Whether a character ends a quoted name. -/
def closes : Quoting → Char → Bool
  | .verbatim, _ => false
  | .enclosed _ closing, c => c = closing

/-- Reads a name whose opening character has been read, and gives it with the text after its
closing character. A name that is never closed is refused. -/
def readName (q : Quoting) : List Char → Option (List Char × List Char)
  | [] => none
  | c :: rest =>
    if closes q c then
      match rest with
      | [] => some ([], [])
      | c' :: rest' =>
        if closes q c' then (readName q rest').map fun r => (c :: r.1, r.2)
        else some ([], c' :: rest')
    else (readName q rest).map fun r => (c :: r.1, r.2)

theorem length_lt_of_readName {q : Quoting} {cs : List Char}
    (h : readName q cs = some (name, rest)) : rest.length < cs.length := by
  fun_induction readName q cs generalizing name rest with
  | case1 => cases h
  | case2 c => cases h; simp
  | case3 c _ c' rest' _ ih =>
    obtain ⟨r, hr, heq⟩ := Option.map_eq_some_iff.1 h
    cases heq
    have := ih hr
    simp only [List.length_cons]
    omega
  | case4 c _ c' rest' => cases h; simp
  | case5 c rest' _ ih =>
    obtain ⟨r, hr, heq⟩ := Option.map_eq_some_iff.1 h
    cases heq
    have := ih hr
    simp only [List.length_cons]
    omega

theorem readName_cons_of_not_closes {q : Quoting} (h : closes q c = false) (rest : List Char) :
    readName q (c :: rest) = (readName q rest).map fun r => (c :: r.1, r.2) := by
  rw [readName.eq_def]
  simp [h]

/-- Doubling inside a name is undone, and the name ends where it was closed. -/
theorem readName_double (hrest : ∀ c ∈ rest.head?, c ≠ closing) (name : List Char) :
    readName (.enclosed opening closing) (Quoting.double closing name ++ closing :: rest) =
      some (name, rest) := by
  induction name with
  | nil =>
    cases rest with
    | nil => simp [Quoting.double, readName, closes]
    | cons c rest => simpa [Quoting.double, readName, closes] using hrest c rfl
  | cons c name ih =>
    by_cases hc : c = closing
    · simp [Quoting.double, readName, closes, hc, ih]
    · have hcloses : closes (.enclosed opening closing) c = false := by simp [closes, hc]
      simp [Quoting.double, hc, readName_cons_of_not_closes hcloses, ih]

/-- Copies a text without its quotes. A text that ends inside a name is refused. -/
def unquoteChars (q : Quoting) : List Char → Option (List Char)
  | [] => some []
  | c :: rest =>
    if opens q c then
      match _h : readName q rest with
      | none => none
      | some (name, rest') => (unquoteChars q rest').map (name ++ ·)
    else (unquoteChars q rest).map (c :: ·)
termination_by cs => cs.length
decreasing_by
  · have := length_lt_of_readName _h
    simp only [List.length_cons]
    omega
  · simp

/-- A text without its quotes. -/
def unquote (q : Quoting) (text : String) : Option String :=
  (unquoteChars q text.toList).map String.ofList

/-! ## Tokens -/

/-- What a statement is made of. The name is the one that is meant, not the one that is written. -/
inductive Token where
  | word (text : String)
  | name (text : String)
  | mark (c : Char)
deriving DecidableEq, Repr

/-- The characters of words. -/
def isWordChar (c : Char) : Bool := c.isAlphanum || c = '_'

/-- The characters that are tokens of their own. -/
def isMark (c : Char) : Bool := [',', '.', '(', ')', '=', ';'].contains c

/-- Reads what begins with a character: a name, a word, a mark, or a part of the text that is no
token, and gives it with the text after it. A comment runs from two dashes to the next line feed; a
carriage return does not end it. Any other character is refused. -/
def lexStep (q : Quoting) (c : Char) (rest : List Char) : Option (List Token × List Char) :=
  if c.isWhitespace then some ([], rest)
  else if opens q c then (readName q rest).map fun r => ([.name (String.ofList r.1)], r.2)
  else if isWordChar c then
    some ([.word (String.ofList (c :: rest.takeWhile isWordChar))], rest.dropWhile isWordChar)
  else if isMark c then some ([.mark c], rest)
  else if c = '-' ∧ rest.head? = some '-' then some ([], rest.dropWhile (· ≠ '\n'))
  else none

theorem length_le_of_lexStep (h : lexStep q c rest = some (ts, rest')) :
    rest'.length ≤ rest.length := by
  unfold lexStep at h
  split at h
  · cases h
    exact Nat.le_refl _
  split at h
  · obtain ⟨⟨name, rest''⟩, hname, heq⟩ := Option.map_eq_some_iff.1 h
    cases heq
    exact Nat.le_of_lt (length_lt_of_readName hname)
  split at h
  · cases h
    exact (List.dropWhile_sublist _).length_le
  split at h
  · cases h
    exact Nat.le_refl _
  split at h
  · cases h
    exact (List.dropWhile_sublist _).length_le
  · cases h

/-- Reads tokens from left to right. -/
def lexChars (q : Quoting) : List Char → Option (List Token)
  | [] => some []
  | c :: rest =>
    match _h : lexStep q c rest with
    | none => none
    | some (ts, rest') => (lexChars q rest').map (ts ++ ·)
termination_by cs => cs.length
decreasing_by exact Nat.lt_succ_of_le (length_le_of_lexStep _h)

theorem lexChars_cons {q : Quoting} (h : lexStep q c rest = some (ts, rest')) :
    lexChars q (c :: rest) = (lexChars q rest').map (ts ++ ·) := by
  rw [lexChars]
  split
  · next hnone => simp [h] at hnone
  · next hsome =>
    rw [h] at hsome
    cases hsome
    rfl

/-- The tokens of a text. -/
def lex (q : Quoting) (text : String) : Option (List Token) := lexChars q text.toList

/-! ## Lexemes -/

/-- A token, or white space between tokens. -/
inductive Lexeme where
  | word (text : String)
  | name (text : String)
  | mark (c : Char)
  | blank (text : String)
deriving DecidableEq, Repr

namespace Lexeme

/-- The token of a lexeme, if it is one. -/
def tokens : Lexeme → List Token
  | .word w => [.word w]
  | .name n => [.name n]
  | .mark c => [.mark c]
  | .blank _ => []

/-- The text of a lexeme: only names are quoted. -/
def text (q : Quoting) : Lexeme → String
  | .word w => w
  | .name n => q.write n
  | .mark c => String.singleton c
  | .blank s => s

/-- A lexeme that may stand next to any other. -/
def isSpacer : Lexeme → Bool
  | .mark _ => true
  | .blank _ => true
  | _ => false

/-- A lexeme is made of the characters of its kind. -/
def isValid : Lexeme → Bool
  | .word w => w ≠ "" && w.toList.all isWordChar
  | .name _ => true
  | .mark c => isMark c
  | .blank s => s ≠ "" && s.toList.all Char.isWhitespace

end Lexeme

/-- The text of a list of lexemes. -/
def spell (q : Quoting) (ls : List Lexeme) : String := String.join (ls.map (Lexeme.text q))

/-- The lexemes of a list can be told apart. -/
structure Readable (ls : List Lexeme) : Prop where
  valid : ∀ l ∈ ls, l.isValid = true
  spaced : ls.IsChain fun l l' => l.isSpacer = true ∨ l'.isSpacer = true

/-- A text that begins like a mark or white space, or is empty. -/
def StartsApart (rest : List Char) : Prop :=
  ∀ c ∈ rest.head?, c.isWhitespace = true ∨ isMark c = true

/-- A character that stands outside of names. -/
def isPlain (c : Char) : Bool := c.isWhitespace || isWordChar c || isMark c

/-! ## Putting lists together -/

section Append
variable {l s : Lexeme} {ls ls' : List Lexeme}

@[simp] theorem spell_nil (q : Quoting) : spell q [] = "" := rfl

@[simp] theorem spell_cons (q : Quoting) (l : Lexeme) (ls : List Lexeme) :
    spell q (l :: ls) = l.text q ++ spell q ls := by
  simp [spell]

@[simp] theorem spell_append (q : Quoting) (ls ls' : List Lexeme) :
    spell q (ls ++ ls') = spell q ls ++ spell q ls' := by
  simp [spell]

theorem spell_intercalate (q : Quoting) (sep : List Lexeme) (lss : List (List Lexeme)) :
    spell q (sep.intercalate lss) = joinWith (spell q sep) (lss.map (spell q)) := by
  induction lss with
  | nil => rfl
  | cons ls lss ih =>
    cases lss with
    | nil => simp [joinWith]
    | cons ls' lss =>
      simp only [List.intercalate_cons_cons, spell_append, ih, List.map_cons, joinWith_cons_cons]

@[simp] theorem readable_nil : Readable [] := ⟨by simp, .nil⟩

@[simp] theorem readable_singleton : Readable [l] ↔ l.isValid = true :=
  ⟨fun h => h.valid l (by simp), fun h => ⟨by simpa using h, .singleton l⟩⟩

theorem readable_cons_cons :
    Readable (l :: s :: ls) ↔
      l.isValid = true ∧ (l.isSpacer = true ∨ s.isSpacer = true) ∧ Readable (s :: ls) := by
  constructor
  · intro h
    obtain ⟨hspaced, htail⟩ := List.isChain_cons_cons.1 h.spaced
    obtain ⟨hl, hvalid⟩ := List.forall_mem_cons.1 h.valid
    exact ⟨hl, hspaced, hvalid, htail⟩
  · rintro ⟨hl, hspaced, h⟩
    exact ⟨List.forall_mem_cons.2 ⟨hl, h.valid⟩, List.isChain_cons_cons.2 ⟨hspaced, h.spaced⟩⟩

@[simp] theorem readable_cons_of_isSpacer (hs : s.isSpacer = true) :
    Readable (s :: ls) ↔ s.isValid = true ∧ Readable ls := by
  cases ls with
  | nil => simp
  | cons l ls => simp [readable_cons_cons, hs]

@[simp] theorem readable_cons_cons_of_isSpacer (hs : s.isSpacer = true) :
    Readable (l :: s :: ls) ↔ l.isValid = true ∧ Readable (s :: ls) := by
  simp [readable_cons_cons, hs]

@[simp] theorem readable_append_cons_of_isSpacer (hs : s.isSpacer = true) :
    Readable (ls ++ s :: ls') ↔ Readable ls ∧ Readable (s :: ls') := by
  constructor
  · intro h
    obtain ⟨hleft, hright⟩ := List.forall_mem_append.1 h.valid
    obtain ⟨hleft', hright', -⟩ := List.isChain_append.1 h.spaced
    exact ⟨⟨hleft, hleft'⟩, hright, hright'⟩
  · rintro ⟨h, h'⟩
    refine ⟨List.forall_mem_append.2 ⟨h.valid, h'.valid⟩,
      List.isChain_append.2 ⟨h.spaced, h'.spaced, fun _ _ y hy => .inr ?_⟩⟩
    cases hy
    exact hs

/-- Lists that are put together with spacers between them stay readable. -/
theorem readable_intercalate {sep : List Lexeme} {lss : List (List Lexeme)} (hne : sep ≠ [])
    (hsep : ∀ s ∈ sep, s.isSpacer = true ∧ s.isValid = true) (h : ∀ ls ∈ lss, Readable ls) :
    Readable (sep.intercalate lss) := by
  have happend : ∀ sep : List Lexeme, (∀ s ∈ sep, s.isSpacer = true ∧ s.isValid = true) →
      ∀ ls, Readable ls → Readable (sep ++ ls) := by
    intro sep hsep ls hls
    induction sep with
    | nil => exact hls
    | cons s sep ih =>
      obtain ⟨⟨hs, hv⟩, hsep⟩ := List.forall_mem_cons.1 hsep
      exact (readable_cons_of_isSpacer hs).2 ⟨hv, ih hsep⟩
  induction lss with
  | nil => exact readable_nil
  | cons ls lss ih =>
    obtain ⟨hls, hlss⟩ := List.forall_mem_cons.1 h
    cases lss with
    | nil => simpa using hls
    | cons ls' lss =>
      obtain ⟨s, sep', rfl⟩ := List.exists_cons_of_ne_nil hne
      have hs := (hsep s (by simp)).1
      rw [List.intercalate_cons_cons, List.append_assoc]
      exact (readable_append_cons_of_isSpacer hs).2 ⟨hls, happend _ hsep _ (ih hlss)⟩

theorem flatMap_intercalate {f : α → List β} (sep : List α) (lss : List (List α)) :
    (sep.intercalate lss).flatMap f = (sep.flatMap f).intercalate (lss.map (·.flatMap f)) := by
  induction lss with
  | nil => rfl
  | cons ls lss ih =>
    cases lss with
    | nil => simp
    | cons ls' lss => simp [List.intercalate_cons_cons, ih]

theorem nil_intercalate (lss : List (List α)) : [].intercalate lss = lss.flatten := by
  induction lss with
  | nil => rfl
  | cons ls lss ih =>
    cases lss with
    | nil => simp
    | cons ls' lss => simp [List.intercalate_cons_cons, ih]

end Append

/-! ## Kinds of characters -/

theorem not_word_of_isWhitespace (h : c.isWhitespace = true) : isWordChar c = false := by
  simp only [Char.isWhitespace, Bool.or_eq_true, decide_eq_true_eq] at h
  rcases h with ((rfl | rfl) | rfl) | rfl <;> decide

theorem not_word_of_isMark (h : isMark c = true) :
    c.isWhitespace = false ∧ isWordChar c = false := by
  simp only [isMark, List.contains_cons, List.contains_nil, Bool.or_false, Bool.or_eq_true,
    beq_iff_eq] at h
  rcases h with rfl | rfl | rfl | rfl | rfl | rfl <;> decide

theorem StartsApart.not_word (h : StartsApart rest) : ∀ c ∈ rest.head?, isWordChar c = false := by
  intro c hc
  rcases h c hc with hblank | hmark
  · exact not_word_of_isWhitespace hblank
  · exact (not_word_of_isMark hmark).2

theorem StartsApart.ne_of_not_plain (h : StartsApart rest) (hq : isPlain quote = false) :
    ∀ c ∈ rest.head?, c ≠ quote := by
  rintro c hc rfl
  rcases h c hc with hblank | hmark
  · simp [isPlain, hblank] at hq
  · simp [isPlain, hmark] at hq

/-! ## Reading lists of lexemes -/

theorem Lexeme.startsApart_text (hs : l.isSpacer = true) (hv : l.isValid = true)
    (rest : List Char) : StartsApart ((Lexeme.text q l).toList ++ rest) := by
  cases l with
  | word | name => cases hs
  | mark c =>
    intro c' hc'
    simp only [text, String.toList_singleton, List.cons_append, List.head?_cons,
      Option.mem_some_iff] at hc'
    exact .inr (hc' ▸ hv)
  | blank s =>
    simp only [isValid, Bool.and_eq_true, decide_eq_true_eq, List.all_eq_true] at hv
    intro c' hc'
    cases hs : s.toList with
    | nil => exact (hv.1 (String.toList_eq_nil_iff.1 hs)).elim
    | cons c cs =>
      simp only [text, hs, List.cons_append, List.head?_cons, Option.mem_some_iff] at hc'
      exact .inl (hc' ▸ hv.2 c (by simp [hs]))

theorem Readable.tail (h : Readable (l :: ls)) : Readable ls :=
  ⟨fun l' hl' => h.valid l' (List.mem_cons_of_mem _ hl'), h.spaced.tail⟩

/-- What follows the first lexeme of a readable list keeps apart from it. -/
theorem Readable.head_apart (h : Readable (l :: ls)) (hrest : StartsApart rest) (q : Quoting) :
    l.isSpacer = true ∨ StartsApart ((spell q ls).toList ++ rest) := by
  cases ls with
  | nil => exact .inr hrest
  | cons l' ls =>
    refine (List.isChain_cons_cons.1 h.spaced).1.imp_right fun hs => ?_
    rw [spell_cons, String.toList_append, List.append_assoc]
    exact Lexeme.startsApart_text hs (h.valid l' (by simp)) _

/-- A reader that reads each lexeme for itself reads a readable list lexeme by lexeme. -/
theorem Readable.read {f : List Char → Option (List β)} {g : Lexeme → List β} {q : Quoting}
    (hf : ∀ l rest, l.isValid = true → (l.isSpacer = true ∨ StartsApart rest) →
      f ((l.text q).toList ++ rest) = (f rest).map (g l ++ ·))
    (h : Readable ls) (hrest : StartsApart rest) :
    f ((spell q ls).toList ++ rest) = (f rest).map (ls.flatMap g ++ ·) := by
  induction ls with
  | nil => simp [spell]
  | cons l ls ih =>
    rw [spell_cons, String.toList_append, List.append_assoc,
      hf l _ (h.valid l (by simp)) (h.head_apart hrest q), ih h.tail, Option.map_map]
    simp [Function.comp_def]

section Enclosed
variable {opening closing : Char}

theorem opens_eq_false (ho : isPlain opening = false) (hc : isPlain c = true) :
    opens (.enclosed opening closing) c = false := by
  refine decide_eq_false fun h => ?_
  rw [h, ho] at hc
  cases hc

theorem lexChars_word {q : Quoting} (hword : ∀ c ∈ w, isWordChar c = true) (hne : w ≠ [])
    (hopens : ∀ c ∈ w, opens q c = false) (hrest : ∀ c ∈ rest.head?, isWordChar c = false) :
    lexChars q (w ++ rest) = (lexChars q rest).map (.word (String.ofList w) :: ·) := by
  obtain ⟨c, w, rfl⟩ := List.exists_cons_of_ne_nil hne
  obtain ⟨hc, hw⟩ := List.forall_mem_cons.1 hword
  have htake : rest.takeWhile isWordChar = [] := by
    cases rest with
    | nil => rfl
    | cons c' rest => simp [hrest c' rfl]
  have hdrop : rest.dropWhile isWordChar = rest := by
    cases rest with
    | nil => rfl
    | cons c' rest => simp [hrest c' rfl]
  have hspace : c.isWhitespace = false := Bool.eq_false_iff.2 fun hspace => by
    simp [not_word_of_isWhitespace hspace] at hc
  have hstep : lexStep q c (w ++ rest) = some ([.word (String.ofList (c :: w))], rest) := by
    rw [lexStep, List.takeWhile_append_of_pos hw, List.dropWhile_append_of_pos hw, htake, hdrop]
    simp [hspace, hopens, hc]
  exact lexChars_cons hstep

theorem lexChars_blanks {q : Quoting} (h : ∀ c ∈ s, c.isWhitespace = true) (rest : List Char) :
    lexChars q (s ++ rest) = lexChars q rest := by
  induction s with
  | nil => rfl
  | cons c s ih =>
    obtain ⟨hc, hs⟩ := List.forall_mem_cons.1 h
    have hstep : lexStep q c (s ++ rest) = some ([], s ++ rest) := by simp [lexStep, hc]
    rw [List.cons_append, lexChars_cons hstep, ih hs]
    simp

theorem lexChars_name (ho : isPlain opening = false)
    (hrest : ∀ c ∈ rest.head?, c ≠ closing) (name : List Char) :
    lexChars (.enclosed opening closing)
        (opening :: (Quoting.double closing name ++ closing :: rest)) =
      (lexChars (.enclosed opening closing) rest).map (.name (String.ofList name) :: ·) := by
  have hspace : opening.isWhitespace = false := by
    simp only [isPlain, Bool.or_eq_false_iff] at ho
    exact ho.1.1
  have hstep : lexStep (.enclosed opening closing) opening
      (Quoting.double closing name ++ closing :: rest) =
        some ([.name (String.ofList name)], rest) := by
    simp [lexStep, hspace, opens, readName_double hrest]
  exact lexChars_cons hstep

theorem lexChars_mark {q : Quoting} (hc : isMark c = true) (hopens : opens q c = false)
    (rest : List Char) : lexChars q (c :: rest) = (lexChars q rest).map (.mark c :: ·) := by
  have hstep : lexStep q c rest = some ([.mark c], rest) := by
    simp [lexStep, not_word_of_isMark hc, hopens, hc]
  exact lexChars_cons hstep

/-- Every lexeme is read for itself. -/
theorem lexChars_text (ho : isPlain opening = false) (hc : isPlain closing = false)
    (l : Lexeme) (rest : List Char) (hv : l.isValid = true)
    (hrest : l.isSpacer = true ∨ StartsApart rest) :
    lexChars (.enclosed opening closing) ((l.text (.enclosed opening closing)).toList ++ rest) =
      (lexChars (.enclosed opening closing) rest).map (l.tokens ++ ·) := by
  cases l with
  | word w =>
    have happ : StartsApart rest := hrest.resolve_left (by simp [Lexeme.isSpacer])
    simp only [Lexeme.isValid, Bool.and_eq_true, decide_eq_true_eq, List.all_eq_true] at hv
    have hopens : ∀ c ∈ w.toList, opens (.enclosed opening closing) c = false := fun c hc =>
      opens_eq_false ho (by simp [isPlain, hv.2 c hc])
    rw [Lexeme.text, lexChars_word hv.2 (by simpa using hv.1) hopens happ.not_word]
    simp [Lexeme.tokens]
  | name n =>
    have happ : StartsApart rest := hrest.resolve_left (by simp [Lexeme.isSpacer])
    simpa [Lexeme.text, Quoting.write, Lexeme.tokens] using
      lexChars_name ho (happ.ne_of_not_plain hc) n.toList
  | mark c =>
    have hmark : isMark c = true := hv
    have hopens : opens (.enclosed opening closing) c = false :=
      opens_eq_false ho (by simp [isPlain, hmark])
    simpa [Lexeme.text, Lexeme.tokens] using lexChars_mark hmark hopens rest
  | blank s =>
    simp only [Lexeme.isValid, Bool.and_eq_true, List.all_eq_true] at hv
    rw [Lexeme.text, lexChars_blanks hv.2]
    simp [Lexeme.tokens]

/-- The tokens of a readable list are found again in its text, before anything that keeps apart
from it. -/
theorem lexChars_spell (ho : isPlain opening = false) (hc : isPlain closing = false)
    (h : Readable ls) (hrest : StartsApart rest) :
    lexChars (.enclosed opening closing) ((spell (.enclosed opening closing) ls).toList ++ rest) =
      (lexChars (.enclosed opening closing) rest).map (ls.flatMap Lexeme.tokens ++ ·) :=
  h.read (lexChars_text ho hc) hrest

/-! ### Without quotes -/

theorem unquoteChars_of_not_opens {q : Quoting} (h : ∀ c ∈ s, opens q c = false)
    (rest : List Char) : unquoteChars q (s ++ rest) = (unquoteChars q rest).map (s ++ ·) := by
  induction s with
  | nil => simp
  | cons c s ih =>
    obtain ⟨hc, hs⟩ := List.forall_mem_cons.1 h
    rw [List.cons_append, unquoteChars, if_neg (by simp [hc]), ih hs, Option.map_map]
    simp [Function.comp_def]

theorem unquoteChars_name (opening : Char) (hrest : ∀ c ∈ rest.head?, c ≠ closing)
    (name : List Char) :
    unquoteChars (.enclosed opening closing)
        (opening :: (Quoting.double closing name ++ closing :: rest)) =
      (unquoteChars (.enclosed opening closing) rest).map (name ++ ·) := by
  rw [unquoteChars, if_pos (by simp [opens])]
  split
  · next h => simp [readName_double hrest] at h
  · next name' rest' h =>
    rw [readName_double hrest] at h
    cases h
    rfl

/-- Only names are quoted, so other lexemes hold no quote. -/
theorem Lexeme.isPlain_text {l : Lexeme} (hv : l.isValid = true) (hn : ∀ n, l ≠ .name n)
    (hc : c ∈ (l.text q).toList) : isPlain c = true := by
  cases l with
  | name n => exact (hn n rfl).elim
  | word w =>
    simp only [isValid, Bool.and_eq_true, List.all_eq_true] at hv
    simp [isPlain, hv.2 c hc]
  | mark c' =>
    simp only [text, String.toList_singleton, List.mem_singleton] at hc
    simp [isPlain, hc, show isMark c' = true from hv]
  | blank s =>
    simp only [isValid, Bool.and_eq_true, List.all_eq_true] at hv
    simp [isPlain, hv.2 c hc]

theorem unquoteChars_text (ho : isPlain opening = false) (hc : isPlain closing = false)
    (l : Lexeme) (rest : List Char) (hv : l.isValid = true)
    (hrest : l.isSpacer = true ∨ StartsApart rest) :
    unquoteChars (.enclosed opening closing)
        ((l.text (.enclosed opening closing)).toList ++ rest) =
      (unquoteChars (.enclosed opening closing) rest).map ((l.text .verbatim).toList ++ ·) := by
  cases l with
  | name n =>
    have happ : StartsApart rest := hrest.resolve_left (by simp [Lexeme.isSpacer])
    simpa [Lexeme.text, Quoting.write] using
      unquoteChars_name opening (happ.ne_of_not_plain hc) n.toList
  | word w | mark c | blank s =>
    refine unquoteChars_of_not_opens (fun c hc => opens_eq_false ho ?_) rest
    exact Lexeme.isPlain_text hv (by simp) hc

/-- The text of a readable list without its quotes is the list as it is written unquoted. -/
theorem unquoteChars_spell (ho : isPlain opening = false) (hc : isPlain closing = false)
    (h : Readable ls) (hrest : StartsApart rest) :
    unquoteChars (.enclosed opening closing)
        ((spell (.enclosed opening closing) ls).toList ++ rest) =
      (unquoteChars (.enclosed opening closing) rest).map ((spell .verbatim ls).toList ++ ·) := by
  rw [h.read (unquoteChars_text ho hc) hrest]
  simp [spell, List.flatMap_map]

end Enclosed

end FactViews.Sql
