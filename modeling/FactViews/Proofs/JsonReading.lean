import FactViews.Proofs.JsonGrammar

/-! # Reading JSON texts

`Json.read` reads exactly the texts that are written for a value (`read_eq_some_iff`): characters
first, then tokens, then values. So no text is written for two values. -/

namespace FactViews.Json

/-! ## Reading characters -/

def readQuad : List Char → Option (Nat × List Char)
  | a :: b :: c :: d :: rest =>
    match hexValue? a, hexValue? b, hexValue? c, hexValue? d with
    | some i, some j, some k, some l => some (((i * 16 + j) * 16 + k) * 16 + l, rest)
    | _, _, _, _ => none
  | _ => none

/-- The second half of a character that is written as two numbers. -/
def readLow (high : Nat) : List Char → Option (Char × List Char)
  | '\\' :: 'u' :: cs =>
    match readQuad cs with
    | none => none
    | some (low, rest) =>
      if 0xDC00 ≤ low ∧ low < 0xE000 then
        some (Char.ofNat (0x10000 + (high - 0xD800) * 0x400 + (low - 0xDC00)), rest)
      else none
  | _ => none

/-- A character that is written as a number. -/
def readCode (cs : List Char) : Option (Char × List Char) :=
  match readQuad cs with
  | none => none
  | some (n, rest) =>
    if n < 0xD800 ∨ 0xE000 ≤ n then some (Char.ofNat n, rest)
    else if n < 0xDC00 then readLow n rest
    else none

/-- What follows a backslash. -/
def readEscape : List Char → Option (Char × List Char)
  | [] => none
  | e :: cs => if e = 'u' then readCode cs else (unescape? e).map fun c => (c, cs)

/-- A character between quotation marks. -/
def readChar : List Char → Option (Char × List Char)
  | [] => none
  | c :: cs =>
    if c = '\\' then readEscape cs
    else if c = '\x22' ∨ c.toNat < 0x20 then none
    else some (c, cs)

variable {c : Char} {n : Nat} {cs rest text : List Char} {t : Token} {ts : List Token}

theorem toNat_sub_le {a b : Char} (h : c ≤ b) : c.toNat - a.toNat ≤ b.toNat - a.toNat :=
  Nat.sub_le_sub_right (UInt32.le_iff_toNat_le.1 h) _

theorem hexValue?_lt {i : Nat} (h : hexValue? c = some i) : i < 16 := by
  unfold hexValue? at h
  split at h
  · next hdigit =>
    cases h
    exact Nat.lt_of_le_of_lt (toNat_sub_le hdigit.2) (by decide)
  split at h
  · next hlower =>
    cases h
    exact Nat.add_lt_add_right (Nat.lt_of_le_of_lt (toNat_sub_le hlower.2) (by decide : _ < 6)) 10
  split at h
  · next hupper =>
    cases h
    exact Nat.add_lt_add_right (Nat.lt_of_le_of_lt (toNat_sub_le hupper.2) (by decide : _ < 6)) 10
  · cases h

theorem Quad.lt (h : Quad n cs) : n < 0x10000 := by
  obtain ⟨ha, hb, hc, hd⟩ := h
  have := hexValue?_lt ha
  have := hexValue?_lt hb
  have := hexValue?_lt hc
  have := hexValue?_lt hd
  omega

theorem toNat_ofNat (h : n < 0xD800 ∨ 0xE000 ≤ n ∧ n < 0x110000) : (Char.ofNat n).toNat = n := by
  have hvalid : n.isValidChar := h.imp id fun h => ⟨by omega, h.2⟩
  rw [Char.ofNat, dif_pos hvalid]
  rfl

/-- The numbers between are the halves of pairs. -/
theorem toNat_lt_or_le (c : Char) : c.toNat < 0xD800 ∨ 0xE000 ≤ c.toNat := by
  obtain h | ⟨h, -⟩ := c.valid
  · exact .inl h
  · exact .inr h

theorem readQuad_eq_some_iff :
    readQuad cs = some (n, rest) ↔ ∃ front, Quad n front ∧ front ++ rest = cs := by
  constructor
  · intro h
    unfold readQuad at h
    split at h
    · split at h
      · next ha hb hc hd =>
        obtain ⟨rfl, rfl⟩ := Prod.mk.inj (Option.some.inj h)
        exact ⟨_, .mk ha hb hc hd, rfl⟩
      · cases h
    · cases h
  · rintro ⟨front, ⟨ha, hb, hc, hd⟩, rfl⟩
    simp [readQuad, ha, hb, hc, hd]

theorem readLow_eq_some_iff {high : Nat} (h₁ : 0xD800 ≤ high) (h₂ : high < 0xDC00) :
    readLow high cs = some (c, rest) ↔ ∃ low front, Quad low front ∧ 0xDC00 ≤ low ∧ low < 0xE000 ∧
      c.toNat = 0x10000 + (high - 0xD800) * 0x400 + (low - 0xDC00) ∧
      '\\' :: 'u' :: (front ++ rest) = cs := by
  constructor
  · intro h
    unfold readLow at h
    split at h
    · split at h
      · cases h
      · next low rest' hquad =>
        split at h
        · next hlow =>
          obtain ⟨front, hfront, rfl⟩ := readQuad_eq_some_iff.1 hquad
          obtain ⟨rfl, rfl⟩ := Prod.mk.inj (Option.some.inj h)
          exact ⟨low, front, hfront, hlow.1, hlow.2, toNat_ofNat (.inr (by omega)), rfl⟩
        · cases h
    · cases h
  · rintro ⟨low, front, hquad, h₃, h₄, hc, rfl⟩
    have hread : readQuad (front ++ rest) = some (low, rest) :=
      readQuad_eq_some_iff.2 ⟨front, hquad, rfl⟩
    simp [readLow, hread, h₃, h₄, ← hc, Char.ofNat_toNat]

theorem readCode_eq_some_iff :
    readCode cs = some (c, rest) ↔
      ∃ front, CharSpelling c ('\\' :: 'u' :: front) ∧ front ++ rest = cs := by
  constructor
  · intro h
    unfold readCode at h
    split at h
    · cases h
    · next n rest' hquad =>
      obtain ⟨front, hfront, rfl⟩ := readQuad_eq_some_iff.1 hquad
      have := hfront.lt
      split at h
      · next hn =>
        obtain ⟨rfl, rfl⟩ := Prod.mk.inj (Option.some.inj h)
        have hcode : (Char.ofNat n).toNat = n := toNat_ofNat (by omega)
        exact ⟨front, .code (hcode.symm ▸ hfront), rfl⟩
      · split at h
        · obtain ⟨low, front', hfront', h₃, h₄, hc, rfl⟩ :=
            (readLow_eq_some_iff (by omega) (by omega)).1 h
          exact ⟨front ++ '\\' :: 'u' :: front',
            .pair hfront hfront' (by omega) (by omega) h₃ h₄ hc, by simp⟩
        · cases h
  · rintro ⟨front, hspell, rfl⟩
    generalize hcs : '\\' :: 'u' :: front = whole at hspell
    cases hspell with
    | plain => cases hcs
    | escaped he =>
      obtain ⟨rfl, -⟩ := List.cons.inj (List.cons.inj hcs).2
      cases he
    | code hquad =>
      obtain rfl := (List.cons.inj (List.cons.inj hcs).2).2
      have hread : readQuad (front ++ rest) = some (c.toNat, rest) :=
        readQuad_eq_some_iff.2 ⟨front, hquad, rfl⟩
      rw [readCode, hread]
      simp [toNat_lt_or_le c]
    | @pair high low front₁ front₂ hhigh hlow h₁ h₂ h₃ h₄ hc =>
      obtain rfl := (List.cons.inj (List.cons.inj hcs).2).2
      have hread : readQuad (front₁ ++ ('\\' :: 'u' :: front₂) ++ rest) =
          some (high, '\\' :: 'u' :: (front₂ ++ rest)) :=
        readQuad_eq_some_iff.2 ⟨front₁, hhigh, by simp⟩
      have hnot : ¬(high < 0xD800 ∨ 0xE000 ≤ high) := by omega
      rw [readCode, hread]
      simp only [hnot, if_false, h₂, if_true]
      exact (readLow_eq_some_iff h₁ h₂).2 ⟨low, front₂, hlow, h₃, h₄, hc, rfl⟩

theorem readChar_eq_some_iff :
    readChar cs = some (c, rest) ↔ ∃ front, CharSpelling c front ∧ front ++ rest = cs := by
  constructor
  · intro h
    unfold readChar at h
    split at h
    · cases h
    split at h
    · next hbackslash =>
      subst hbackslash
      unfold readEscape at h
      split at h
      · cases h
      split at h
      · next hu =>
        subst hu
        obtain ⟨front, hspell, rfl⟩ := readCode_eq_some_iff.1 h
        exact ⟨_, hspell, rfl⟩
      · obtain ⟨c', he, heq⟩ := Option.map_eq_some_iff.1 h
        obtain ⟨rfl, rfl⟩ := Prod.mk.inj heq
        exact ⟨_, .escaped he, rfl⟩
    · next hbackslash =>
      split at h
      · cases h
      · next hquote =>
        obtain ⟨rfl, rfl⟩ := Prod.mk.inj (Option.some.inj h)
        exact ⟨_, .plain (fun h => hquote (.inl h)) hbackslash (by omega), rfl⟩
  · rintro ⟨front, hspell, rfl⟩
    cases hspell with
    | plain hquote hbackslash hprint =>
      simp [readChar, hquote, hbackslash, Nat.not_lt.2 hprint]
    | @escaped e he =>
      have hu : e ≠ 'u' := by
        rintro rfl
        cases he
      simp [readChar, readEscape, hu, he]
    | code hquad => exact readCode_eq_some_iff.2 ⟨_, .code hquad, rfl⟩
    | pair hhigh hlow h₁ h₂ h₃ h₄ hc =>
      exact readCode_eq_some_iff.2 ⟨_, .pair hhigh hlow h₁ h₂ h₃ h₄ hc, rfl⟩

/-! ## Reading tokens -/

theorem CharSpelling.length_pos (h : CharSpelling c cs) : 0 < cs.length := by
  cases h <;> simp

theorem length_lt_of_readChar (h : readChar cs = some (c, rest)) : rest.length < cs.length := by
  obtain ⟨front, hspell, rfl⟩ := readChar_eq_some_iff.1 h
  have := hspell.length_pos
  simp only [List.length_append]
  omega

/-- The characters up to the quotation mark at the end of a text. -/
def readText (cs : List Char) : Option (List Char × List Char) :=
  if cs.head? = some '\x22' then some ([], cs.tail)
  else
    match h : readChar cs with
    | none => none
    | some (c, rest) =>
      have := length_lt_of_readChar h
      (readText rest).map fun (text, rest) => (c :: text, rest)
termination_by cs.length

theorem readText_quote (rest : List Char) : readText ('\x22' :: rest) = some ([], rest) := by
  rw [readText]
  rfl

theorem readText_of_readChar {text rest' : List Char} (h : readChar cs = some (c, rest))
    (hrest : readText rest = some (text, rest')) : readText cs = some (c :: text, rest') := by
  have hquote : cs.head? ≠ some '\x22' := by
    intro hhead
    obtain ⟨cs', rfl⟩ := List.head?_eq_some_iff.1 hhead
    cases h
  rw [readText, if_neg hquote]
  split
  · next hnone => rw [h] at hnone; cases hnone
  · next c' rest'' hsome =>
    obtain ⟨rfl, rfl⟩ := Prod.mk.inj (Option.some.inj (h.symm.trans hsome))
    rw [hrest]
    rfl

theorem readText_eq_some_iff :
    readText cs = some (text, rest) ↔
      ∃ front, TextSpelling text front ∧ front ++ '\x22' :: rest = cs := by
  constructor
  · intro h
    fun_induction readText cs generalizing text with
    | case1 cs hhead =>
      obtain ⟨cs', rfl⟩ := List.head?_eq_some_iff.1 hhead
      obtain ⟨rfl, rfl⟩ := Prod.mk.inj (Option.some.inj h)
      exact ⟨[], .nil, rfl⟩
    | case2 cs hhead hchar => cases h
    | case3 cs hhead c rest' hchar hlt ih =>
      obtain ⟨⟨text', rest''⟩, hrest, heq⟩ := Option.map_eq_some_iff.1 h
      obtain ⟨rfl, rfl⟩ := Prod.mk.inj heq
      obtain ⟨front', htext, rfl⟩ := ih hrest
      obtain ⟨front, hspell, rfl⟩ := readChar_eq_some_iff.1 hchar
      exact ⟨front ++ front', .cons hspell htext, by simp⟩
  · rintro ⟨front, hspell, rfl⟩
    induction hspell with
    | nil => exact readText_quote rest
    | @cons c text front front' hchar _ ih =>
      refine readText_of_readChar ?_ ih
      exact readChar_eq_some_iff.2 ⟨front, hchar, by simp⟩

theorem length_lt_of_readText (h : readText cs = some (text, rest)) :
    rest.length < cs.length := by
  obtain ⟨front, -, rfl⟩ := readText_eq_some_iff.1 h
  simp only [List.length_append, List.length_cons]
  omega

/-- The tokens of a text. -/
def lex : List Char → Option (List Token)
  | [] => some []
  | c :: cs =>
    if isSpace c then lex cs
    else if c = '\x22' then
      match h : readText cs with
      | none => none
      | some (text, rest) =>
        have := length_lt_of_readText h
        (lex rest).map (.text (String.ofList text) :: ·)
    else
      match mark? c with
      | none => none
      | some t => (lex cs).map (t :: ·)
termination_by cs => cs.length

theorem lex_blanks {blanks : List Char} (h : ∀ c ∈ blanks, isSpace c = true) (cs : List Char) :
    lex (blanks ++ cs) = lex cs := by
  induction blanks with
  | nil => rfl
  | cons b bs ih =>
    rw [List.forall_mem_cons] at h
    rw [List.cons_append, lex, if_pos h.1, ih h.2]

theorem lex_mark (h : mark? c = some t) (cs : List Char) :
    lex (c :: cs) = (lex cs).map (t :: ·) := by
  have hspace : isSpace c = false ∧ c ≠ '\x22' := by
    unfold mark? at h
    split at h <;> first | exact ⟨rfl, by decide⟩ | cases h
  rw [lex, hspace.1, if_neg hspace.2, h]
  rfl

theorem lex_text (h : readText cs = some (text, rest)) :
    lex ('\x22' :: cs) = (lex rest).map (.text (String.ofList text) :: ·) := by
  have hspace : isSpace '\x22' = false := rfl
  rw [lex, hspace, if_neg Bool.false_ne_true, if_pos rfl]
  split
  · next hnone => rw [h] at hnone; cases hnone
  · next text' rest' hsome =>
    obtain ⟨rfl, rfl⟩ := Prod.mk.inj (Option.some.inj (h.symm.trans hsome))
    rfl

theorem lex_token (h : TokenSpelling t cs) (rest : List Char) :
    lex (cs ++ rest) = (lex rest).map (t :: ·) := by
  cases h with
  | mark hmark => exact lex_mark hmark rest
  | @text s cs htext =>
    have hread : readText (cs ++ '\x22' :: rest) = some (s.toList, rest) :=
      readText_eq_some_iff.2 ⟨cs, htext, rfl⟩
    simpa using lex_text hread

theorem lex_eq_some_iff : lex cs = some ts ↔ Spelling ts cs := by
  constructor
  · intro h
    fun_induction lex cs generalizing ts with
    | case1 =>
      obtain rfl := Option.some.inj h
      exact .nil (by simp)
    | case2 c cs hspace ih => exact (ih h).blank hspace
    | case3 => cases h
    | case4 cs text rest hread hlt hspace ih =>
      obtain ⟨ts', hlex, rfl⟩ := Option.map_eq_some_iff.1 h
      obtain ⟨front, htext, rfl⟩ := readText_eq_some_iff.1 hread
      have htoken : TokenSpelling (.text (String.ofList text)) ('\x22' :: (front ++ ['\x22'])) :=
        .text (String.toList_ofList.symm ▸ htext)
      simpa using Spelling.token htoken (ih hlex)
    | case5 => cases h
    | case6 c cs hspace hquote t hmark ih =>
      obtain ⟨ts', hlex, rfl⟩ := Option.map_eq_some_iff.1 h
      exact Spelling.token (.mark hmark) (ih hlex)
  · intro h
    induction h with
    | nil hblanks => simpa [lex] using lex_blanks hblanks []
    | cons hblanks htoken _ ih => rw [lex_blanks hblanks, lex_token htoken, ih, Option.map_some]

/-! ## Reading values -/

/-- Continues after what was read, and joins the two results. -/
def andThen {α β γ : Type} (x : Option (α × List Token))
    (next : List Token → Option (β × List Token)) (f : α → β → γ) : Option (γ × List Token) :=
  x.bind fun p => (next p.2).map fun q => (f p.1 q.1, q.2)

mutual

/-- A value and the tokens after it, where a number bounds the depth of the recursion. -/
def readValue : Nat → List Token → Option (Json × List Token)
  | _ + 1, .text s :: ts => some (.string s, ts)
  | _ + 1, .openList :: .closeList :: ts => some (.array [], ts)
  | n + 1, .openList :: ts =>
    andThen (readValue n ts) (readItems n) fun x xs => .array (x :: xs)
  | _ + 1, .openObject :: .closeObject :: ts => some (.object [], ts)
  | n + 1, .openObject :: .text k :: .colon :: ts =>
    andThen (readValue n ts) (readFields n) fun v fs => .object ((k, v) :: fs)
  | _, _ => none

/-- The items after the first, up to the bracket. -/
def readItems : Nat → List Token → Option (List Json × List Token)
  | _ + 1, .closeList :: ts => some ([], ts)
  | n + 1, .comma :: ts => andThen (readValue n ts) (readItems n) fun x xs => x :: xs
  | _, _ => none

/-- The fields after the first, up to the brace. -/
def readFields : Nat → List Token → Option (List (String × Json) × List Token)
  | _ + 1, .closeObject :: ts => some ([], ts)
  | n + 1, .comma :: .text k :: .colon :: ts =>
    andThen (readValue n ts) (readFields n) fun v fs => (k, v) :: fs
  | _, _ => none

end

/-- The value for which a text is written. -/
def read (text : String) : Option Json :=
  (lex text.toList).bind fun ts =>
    match readValue ts.length ts with
    | some (j, []) => some j
    | _ => none

theorem andThen_eq_some_iff {α β γ : Type} {x : Option (α × List Token)}
    {next : List Token → Option (β × List Token)} {f : α → β → γ} {r : γ} {rest : List Token} :
    andThen x next f = some (r, rest) ↔
      ∃ a ts b, x = some (a, ts) ∧ next ts = some (b, rest) ∧ f a b = r := by
  constructor
  · intro h
    obtain ⟨⟨a, ts⟩, hx, hnext⟩ := Option.bind_eq_some_iff.1 h
    obtain ⟨⟨b, ts'⟩, hy, heq⟩ := Option.map_eq_some_iff.1 hnext
    obtain ⟨rfl, rfl⟩ := Prod.mk.inj heq
    exact ⟨a, ts, b, hx, hy, rfl⟩
  · rintro ⟨a, ts, b, rfl, hnext, rfl⟩
    simp [andThen, hnext]

theorem tokens_ne_closeList (j : Json) (ts ts' : List Token) :
    j.tokens ++ ts ≠ .closeList :: ts' := by
  cases j with
  | string s => simp [tokens]
  | array items => cases items <;> simp [tokens]
  | object fields => cases fields <;> simp [tokens]

-- Every call reads a token before it goes deeper, so the number of tokens bounds the depth.
mutual

theorem readValue_tokens : ∀ (j : Json) {n : Nat} (ts : List Token), j.tokens.length ≤ n →
    readValue n (j.tokens ++ ts) = some (j, ts)
  | .string s, 0, ts, h => by simp [tokens] at h
  | .string s, n + 1, ts, h => by simp [tokens, readValue]
  | .array [], 0, ts, h => by simp [tokens] at h
  | .array [], n + 1, ts, h => by simp [tokens, readValue]
  | .array (x :: xs), 0, ts, h => by simp [tokens] at h
  | .array (x :: xs), n + 1, ts, h => by
    simp only [tokens, List.length_cons, List.length_append, List.length_nil] at h
    have hx := readValue_tokens x (n := n) (itemTokens xs ++ .closeList :: ts) (by omega)
    have hxs := readItems_tokens xs (n := n) ts (by omega)
    -- no value begins with the bracket that ends an empty list
    have hne := tokens_ne_closeList x (itemTokens xs ++ .closeList :: ts)
    simp only [tokens, List.cons_append, List.append_assoc, List.nil_append]
    rw [readValue]
    · exact andThen_eq_some_iff.2 ⟨x, _, xs, hx, hxs, rfl⟩
    · exact hne
  | .object [], 0, ts, h => by simp [tokens] at h
  | .object [], n + 1, ts, h => by simp [tokens, readValue]
  | .object ((k, v) :: fs), 0, ts, h => by simp [tokens] at h
  | .object ((k, v) :: fs), n + 1, ts, h => by
    simp only [tokens, List.length_cons, List.length_append, List.length_nil] at h
    have hv := readValue_tokens v (n := n) (fieldTokens fs ++ .closeObject :: ts) (by omega)
    have hfs := readFields_tokens fs (n := n) ts (by omega)
    simp only [tokens, List.cons_append, List.append_assoc, List.nil_append]
    rw [readValue]
    exact andThen_eq_some_iff.2 ⟨v, _, fs, hv, hfs, rfl⟩

theorem readItems_tokens : ∀ (xs : List Json) {n : Nat} (ts : List Token),
    (itemTokens xs).length < n →
    readItems n (itemTokens xs ++ .closeList :: ts) = some (xs, ts)
  | _, 0, ts, h => by simp at h
  | [], n + 1, ts, h => by simp [itemTokens, readItems]
  | x :: xs, n + 1, ts, h => by
    simp only [itemTokens, List.length_cons, List.length_append] at h
    have hx := readValue_tokens x (n := n) (itemTokens xs ++ .closeList :: ts) (by omega)
    have hxs := readItems_tokens xs (n := n) ts (by omega)
    simp only [itemTokens, List.cons_append, List.append_assoc]
    rw [readItems]
    exact andThen_eq_some_iff.2 ⟨x, _, xs, hx, hxs, rfl⟩

theorem readFields_tokens : ∀ (fs : List (String × Json)) {n : Nat} (ts : List Token),
    (fieldTokens fs).length < n →
    readFields n (fieldTokens fs ++ .closeObject :: ts) = some (fs, ts)
  | _, 0, ts, h => by simp at h
  | [], n + 1, ts, h => by simp [fieldTokens, readFields]
  | (k, v) :: fs, n + 1, ts, h => by
    simp only [fieldTokens, List.length_cons, List.length_append] at h
    have hv := readValue_tokens v (n := n) (fieldTokens fs ++ .closeObject :: ts) (by omega)
    have hfs := readFields_tokens fs (n := n) ts (by omega)
    simp only [fieldTokens, List.cons_append, List.append_assoc]
    rw [readFields]
    exact andThen_eq_some_iff.2 ⟨v, _, fs, hv, hfs, rfl⟩

end

mutual

theorem tokens_of_readValue : ∀ (n : Nat) {ts rest : List Token} {j : Json},
    readValue n ts = some (j, rest) → j.tokens ++ rest = ts
  | 0, ts, rest, j, h => by simp [readValue] at h
  | n + 1, ts, rest, j, h => by
    unfold readValue at h
    split at h
    · obtain ⟨rfl, rfl⟩ := Prod.mk.inj (Option.some.inj h)
      rfl
    · obtain ⟨rfl, rfl⟩ := Prod.mk.inj (Option.some.inj h)
      rfl
    · obtain ⟨x, ts', xs, hx, hxs, rfl⟩ := andThen_eq_some_iff.1 h
      rw [← tokens_of_readValue _ hx, ← itemTokens_of_readItems _ hxs]
      simp [tokens]
    · obtain ⟨rfl, rfl⟩ := Prod.mk.inj (Option.some.inj h)
      rfl
    · obtain ⟨v, ts', fs, hv, hfs, rfl⟩ := andThen_eq_some_iff.1 h
      rw [← tokens_of_readValue _ hv, ← fieldTokens_of_readFields _ hfs]
      simp [tokens]
    · cases h

theorem itemTokens_of_readItems : ∀ (n : Nat) {ts rest : List Token} {xs : List Json},
    readItems n ts = some (xs, rest) → itemTokens xs ++ .closeList :: rest = ts
  | 0, ts, rest, xs, h => by simp [readItems] at h
  | n + 1, ts, rest, xs, h => by
    unfold readItems at h
    split at h
    · obtain ⟨rfl, rfl⟩ := Prod.mk.inj (Option.some.inj h)
      rfl
    · obtain ⟨x, ts', xs, hx, hxs, rfl⟩ := andThen_eq_some_iff.1 h
      rw [← tokens_of_readValue _ hx, ← itemTokens_of_readItems _ hxs]
      simp [itemTokens]
    · cases h

theorem fieldTokens_of_readFields : ∀ (n : Nat) {ts rest : List Token} {fs : List (String × Json)},
    readFields n ts = some (fs, rest) → fieldTokens fs ++ .closeObject :: rest = ts
  | 0, ts, rest, fs, h => by simp [readFields] at h
  | n + 1, ts, rest, fs, h => by
    unfold readFields at h
    split at h
    · obtain ⟨rfl, rfl⟩ := Prod.mk.inj (Option.some.inj h)
      rfl
    · obtain ⟨v, ts', fs, hv, hfs, rfl⟩ := andThen_eq_some_iff.1 h
      rw [← tokens_of_readValue _ hv, ← fieldTokens_of_readFields _ hfs]
      simp [fieldTokens]
    · cases h

end

theorem read_eq_some_iff {j : Json} {text : String} : read text = some j ↔ j.Written text := by
  constructor
  · intro h
    obtain ⟨ts, hlex, hvalue⟩ := Option.bind_eq_some_iff.1 h
    split at hvalue
    · next j' hread =>
      obtain rfl := Option.some.inj hvalue
      have htokens : j'.tokens = ts := by simpa using tokens_of_readValue _ hread
      rw [← htokens] at hlex
      exact lex_eq_some_iff.1 hlex
    · cases hvalue
  · intro h
    have hlex : lex text.toList = some j.tokens := lex_eq_some_iff.2 h
    have hvalue : readValue j.tokens.length j.tokens = some (j, []) := by
      simpa using readValue_tokens j [] (Nat.le_refl _)
    simp [read, hlex, hvalue]

/-- No text is written for two values. -/
theorem Written.unique {j j' : Json} {text : String} (h : j.Written text) (h' : j'.Written text) :
    j = j' :=
  Option.some.inj ((read_eq_some_iff.2 h).symm.trans (read_eq_some_iff.2 h'))

end FactViews.Json
