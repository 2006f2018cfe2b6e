import FactViews.Json

/-! # The grammar of JSON texts

A JSON text is a sequence of tokens with white space around them: brackets, braces, commas, colons
and quoted texts. A value has one sequence of tokens (`Json.tokens`), but a token of a text has many
spellings, since every character can be escaped. `Json.Written` says that a text is written for a
value; the values here are texts, lists and objects. The indented text of a value is written for
it. -/

namespace FactViews.Json

/-! ## Tokens -/

inductive Token where
  | openList
  | closeList
  | openObject
  | closeObject
  | comma
  | colon
  | text (s : String)
deriving DecidableEq, Repr

mutual

/-- The tokens of a value. -/
def tokens : Json → List Token
  | .string s => [.text s]
  | .array [] => [.openList, .closeList]
  | .array (x :: xs) => .openList :: (tokens x ++ (itemTokens xs ++ [.closeList]))
  | .object [] => [.openObject, .closeObject]
  | .object ((k, v) :: fs) =>
    .openObject :: .text k :: .colon :: (tokens v ++ (fieldTokens fs ++ [.closeObject]))

/-- The tokens of the items after the first. -/
def itemTokens : List Json → List Token
  | [] => []
  | x :: xs => .comma :: (tokens x ++ itemTokens xs)

/-- The tokens of the fields after the first. -/
def fieldTokens : List (String × Json) → List Token
  | [] => []
  | (k, v) :: fs => .comma :: .text k :: .colon :: (tokens v ++ fieldTokens fs)

end

/-! ## Spellings -/

/-- White space between tokens. -/
def isSpace (c : Char) : Bool := c = ' ' || c = '\t' || c = '\n' || c = '\r'

def mark? : Char → Option Token
  | '[' => some .openList
  | ']' => some .closeList
  | '\x7b' => some .openObject
  | '\x7d' => some .closeObject
  | ',' => some .comma
  | ':' => some .colon
  | _ => none

/-- The character for which a letter after a backslash stands. -/
def unescape? : Char → Option Char
  | '\x22' => some '\x22'
  | '\\' => some '\\'
  | '/' => some '/'
  | 'b' => some '\x08'
  | 'f' => some '\x0c'
  | 'n' => some '\n'
  | 'r' => some '\r'
  | 't' => some '\t'
  | _ => none

def hexValue? (c : Char) : Option Nat :=
  if '0' ≤ c ∧ c ≤ '9' then some (c.toNat - '0'.toNat)
  else if 'a' ≤ c ∧ c ≤ 'f' then some (c.toNat - 'a'.toNat + 10)
  else if 'A' ≤ c ∧ c ≤ 'F' then some (c.toNat - 'A'.toNat + 10)
  else none

/-- Four hexadecimal digits of a number. -/
inductive Quad : Nat → List Char → Prop where
  | mk {a b c d : Char} {i j k l : Nat} : hexValue? a = some i → hexValue? b = some j →
    hexValue? c = some k → hexValue? d = some l →
    Quad (((i * 16 + j) * 16 + k) * 16 + l) [a, b, c, d]

/-- The spellings of a character between quotation marks. -/
inductive CharSpelling : Char → List Char → Prop where
  | plain {c : Char} : c ≠ '\x22' → c ≠ '\\' → 0x20 ≤ c.toNat → CharSpelling c [c]
  | escaped {c e : Char} : unescape? e = some c → CharSpelling c ['\\', e]
  | code {c : Char} {cs : List Char} : Quad c.toNat cs → CharSpelling c ('\\' :: 'u' :: cs)
  /-- A character beyond the first 65536, as two numbers. -/
  | pair {c : Char} {high low : Nat} {cs cs' : List Char} : Quad high cs → Quad low cs' →
    0xD800 ≤ high → high < 0xDC00 → 0xDC00 ≤ low → low < 0xE000 →
    c.toNat = 0x10000 + (high - 0xD800) * 0x400 + (low - 0xDC00) →
    CharSpelling c ('\\' :: 'u' :: (cs ++ '\\' :: 'u' :: cs'))

inductive TextSpelling : List Char → List Char → Prop where
  | nil : TextSpelling [] []
  | cons {c : Char} {text cs cs' : List Char} : CharSpelling c cs → TextSpelling text cs' →
    TextSpelling (c :: text) (cs ++ cs')

inductive TokenSpelling : Token → List Char → Prop where
  | mark {c : Char} {t : Token} : mark? c = some t → TokenSpelling t [c]
  | text {s : String} {cs : List Char} : TextSpelling s.toList cs →
    TokenSpelling (.text s) ('\x22' :: (cs ++ ['\x22']))

/-- Tokens with white space before, between and after them. -/
inductive Spelling : List Token → List Char → Prop where
  | nil {blanks : List Char} : (∀ c ∈ blanks, isSpace c = true) → Spelling [] blanks
  | cons {blanks cs cs' : List Char} {t : Token} {ts : List Token} :
    (∀ c ∈ blanks, isSpace c = true) → TokenSpelling t cs → Spelling ts cs' →
    Spelling (t :: ts) (blanks ++ (cs ++ cs'))

/-- A text that is written for a value. -/
def Written (j : Json) (text : String) : Prop := Spelling j.tokens text.toList

/-! ## The indented text -/

variable {c : Char} {n : Nat} {cs rest : List Char} {t : Token} {ts : List Token}

theorem hexValue?_hexDigit (n : Nat) : hexValue? (hexDigit n) = some (n % 16) := by
  have hall : ∀ i < 16, hexValue? (Nat.digitChar i) = some i := by decide
  exact hall _ (Nat.mod_lt n (by decide))

theorem quad_hexDigit (h : n < 0x100) : Quad n ['0', '0', hexDigit (n / 16), hexDigit n] := by
  have hquad : Quad (((0 * 16 + 0) * 16 + n / 16 % 16) * 16 + n % 16) _ :=
    .mk (a := '0') (b := '0') rfl rfl (hexValue?_hexDigit (n / 16)) (hexValue?_hexDigit n)
  have hvalue : ((0 * 16 + 0) * 16 + n / 16 % 16) * 16 + n % 16 = n := by omega
  rwa [hvalue] at hquad

theorem charSpelling_escapeChar (c : Char) : CharSpelling c (escapeChar c) := by
  unfold escapeChar
  split
  · next h => subst h; exact .escaped rfl
  next hquote =>
  split
  · next h => subst h; exact .escaped rfl
  next hbackslash =>
  split
  · next h => subst h; exact .escaped rfl
  split
  · next h => subst h; exact .escaped rfl
  split
  · next h => subst h; exact .escaped rfl
  split
  · next h => exact .escaped (by rw [← Char.ofNat_toNat c, h]; rfl)
  split
  · next h => exact .escaped (by rw [← Char.ofNat_toNat c, h]; rfl)
  split
  · exact .code (quad_hexDigit (by omega))
  · exact .plain hquote hbackslash (by omega)

theorem textSpelling_flatMap (text : List Char) : TextSpelling text (text.flatMap escapeChar) := by
  induction text with
  | nil => exact .nil
  | cons c text ih => exact .cons (charSpelling_escapeChar c) ih

namespace Spelling

theorem blank {b : Char} (hb : isSpace b = true) (h : Spelling ts cs) :
    Spelling ts (b :: cs) := by
  cases h with
  | nil hblanks => exact .nil (List.forall_mem_cons.2 ⟨hb, hblanks⟩)
  | cons hblanks htoken hrest =>
    rw [← List.cons_append]
    exact .cons (List.forall_mem_cons.2 ⟨hb, hblanks⟩) htoken hrest

theorem token (ht : TokenSpelling t cs) (h : Spelling ts rest) :
    Spelling (t :: ts) (cs ++ rest) := by
  rw [← List.nil_append (cs ++ rest)]
  exact .cons (by simp) ht h

theorem blanks {blanks : List Char} (hb : ∀ c ∈ blanks, isSpace c = true) (h : Spelling ts cs) :
    Spelling ts (blanks ++ cs) := by
  induction blanks with
  | nil => exact h
  | cons b bs ih =>
    rw [List.forall_mem_cons] at hb
    exact (ih hb.2).blank hb.1

theorem newline (level : Nat) (h : Spelling ts cs) :
    Spelling ts ((newline level).toList ++ cs) := by
  refine h.blanks ?_
  intro c hc
  simp only [Json.newline, String.toList_ofList, List.mem_cons, List.mem_replicate] at hc
  obtain rfl | ⟨-, rfl⟩ := hc <;> rfl

theorem mark (ht : mark? c = some t) (h : Spelling ts cs) : Spelling (t :: ts) (c :: cs) :=
  .token (.mark ht) h

theorem quoted (s : String) (h : Spelling ts cs) :
    Spelling (.text s :: ts) ((quoted s).toList ++ cs) := by
  have htext := TokenSpelling.text (textSpelling_flatMap s.toList)
  simpa [Json.quoted] using h.token htext

end Spelling

-- On the value, in front of any text that is spelled, so that the parts of a value can be joined.
mutual

theorem spelling_pretty : ∀ (j : Json) (level : Nat) {ts : List Token} {cs : List Char},
    Spelling ts cs → Spelling (j.tokens ++ ts) ((j.pretty level).toList ++ cs)
  | .string s, level, ts, cs, h => h.quoted s
  | .array [], level, ts, cs, h => by
    simpa [tokens, pretty] using (h.mark (c := ']') rfl).mark (c := '[') rfl
  | .array (x :: xs), level, ts, cs, h => by
    have hclose := (h.mark (c := ']') rfl).newline level
    have hitems := spelling_prettyItems xs (level + 1) hclose
    have hfirst := (spelling_pretty x (level + 1) hitems).newline (level + 1)
    simpa [tokens, pretty] using hfirst.mark (c := '[') rfl
  | .object [], level, ts, cs, h => by
    simpa [tokens, pretty] using (h.mark (c := '\x7d') rfl).mark (c := '\x7b') rfl
  | .object ((k, v) :: fs), level, ts, cs, h => by
    have hclose := (h.mark (c := '\x7d') rfl).newline level
    have hfields := spelling_prettyFields fs (level + 1) hclose
    have hvalue := (spelling_pretty v (level + 1) hfields).blank (b := ' ') rfl
    have hfirst := ((hvalue.mark (c := ':') rfl).quoted k).newline (level + 1)
    simpa [tokens, pretty] using hfirst.mark (c := '\x7b') rfl

theorem spelling_prettyItems : ∀ (xs : List Json) (level : Nat) {ts : List Token} {cs : List Char},
    Spelling ts cs → Spelling (itemTokens xs ++ ts) ((prettyItems level xs).toList ++ cs)
  | [], level, ts, cs, h => h
  | x :: xs, level, ts, cs, h => by
    have hitems := spelling_prettyItems xs level h
    have hfirst := (spelling_pretty x level hitems).newline level
    simpa [itemTokens, prettyItems] using hfirst.mark (c := ',') rfl

theorem spelling_prettyFields : ∀ (fs : List (String × Json)) (level : Nat) {ts : List Token}
    {cs : List Char},
    Spelling ts cs → Spelling (fieldTokens fs ++ ts) ((prettyFields level fs).toList ++ cs)
  | [], level, ts, cs, h => h
  | (k, v) :: fs, level, ts, cs, h => by
    have hfields := spelling_prettyFields fs level h
    have hvalue := (spelling_pretty v level hfields).blank (b := ' ') rfl
    have hfirst := ((hvalue.mark (c := ':') rfl).quoted k).newline level
    simpa [fieldTokens, prettyFields] using hfirst.mark (c := ',') rfl

end

theorem written_text (j : Json) : j.Written j.text := by
  simpa [Written, text] using spelling_pretty j 0 (.nil (List.forall_mem_nil _))

end FactViews.Json
