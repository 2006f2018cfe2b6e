import Mathlib.Data.List.TakeWhile
import FactViews.CommandLine
import FactViews.Proofs.DistinctNames
import FactViews.Proofs.StatementTokens

/-! # Statements that are printed

Statements are printed one after another, each below a comment line with the name of its fact. A
text that has tokens of its own keeps them when a line break and another text follow
(`lexChars_append_newline`), so what is printed has the tokens of its parts. A comment ends with
its line: the part of a name from its first line break on, `laterLines`, is read like a part of the
statements. Names of one line are read as comments and nothing else. -/

namespace FactViews

namespace Sql
variable {q : Quoting} {opening closing : Char}

/-! ## Texts before a line break -/

theorem closes_newline (hc : isPlain closing = false) :
    closes (.enclosed opening closing) '\n' = false := by
  refine decide_eq_false ?_
  rintro rfl
  revert hc
  decide

/-- A character that ends a run of characters ends it also when more characters follow. -/
theorem while_append_of_stop {p : Char → Bool} (stop : Char) (hp : p stop = false)
    (s rest : List Char) :
    (s ++ stop :: rest).takeWhile p = s.takeWhile p ∧
      (s ++ stop :: rest).dropWhile p = s.dropWhile p ++ stop :: rest := by
  induction s with
  | nil => simp [hp]
  | cons c s ih => cases hc : p c <;> simp [hc, ih]

theorem readName_append_newline (hq : closes q '\n' = false) (h : readName q s = some (name, s'))
    (rest : List Char) : readName q (s ++ '\n' :: rest) = some (name, s' ++ '\n' :: rest) := by
  fun_induction readName q s generalizing name s' with
  | case1 => cases h
  | case2 c hc =>
    cases h
    rw [List.singleton_append, readName.eq_def]
    simp [hc, hq]
  | case3 c hc c' s hc' ih =>
    obtain ⟨r, hr, heq⟩ := Option.map_eq_some_iff.1 h
    cases heq
    rw [List.cons_append, List.cons_append, readName.eq_def]
    simp [hc, hc', ih hr]
  | case4 c hc c' s hc' =>
    cases h
    rw [List.cons_append, List.cons_append, readName.eq_def]
    simp [hc, hc']
  | case5 c s hc ih =>
    obtain ⟨r, hr, heq⟩ := Option.map_eq_some_iff.1 h
    cases heq
    rw [List.cons_append, readName_cons_of_not_closes (by simpa using hc), ih hr]
    rfl

theorem lexStep_append_newline (hq : closes q '\n' = false) (h : lexStep q c s = some (ts, s'))
    (rest : List Char) : lexStep q c (s ++ '\n' :: rest) = some (ts, s' ++ '\n' :: rest) := by
  unfold lexStep at h ⊢
  split at h
  · cases h
    simp [*]
  split at h
  · obtain ⟨r, hr, heq⟩ := Option.map_eq_some_iff.1 h
    cases heq
    simp [*, readName_append_newline hq hr]
  split at h
  · cases h
    obtain ⟨htake, hdrop⟩ := while_append_of_stop (p := isWordChar) '\n' (by decide) s rest
    simp [*]
  split at h
  · cases h
    simp [*]
  split at h
  · next hspace hopens hword hmark hdash =>
    cases h
    have hdash' : (s ++ '\n' :: rest).head? = some '-' := by
      rw [List.head?_append, hdash.2]
      rfl
    rw [if_neg hspace, if_neg hopens, if_neg hword, if_neg hmark, if_pos ⟨hdash.1, hdash'⟩,
      (while_append_of_stop '\n' (by simp) s rest).2]
  · cases h

theorem lexChars_newline (q : Quoting) (rest : List Char) :
    lexChars q ('\n' :: rest) = lexChars q rest :=
  lexChars_blanks (s := ['\n']) (by simp) rest

/-- A line break keeps apart what is read before it and after it. -/
theorem lexChars_append_newline (hq : closes q '\n' = false) (h : lexChars q s = some ts)
    (rest : List Char) : lexChars q (s ++ '\n' :: rest) = (lexChars q rest).map (ts ++ ·) := by
  fun_induction lexChars q s generalizing ts with
  | case1 =>
    cases h
    simpa using lexChars_newline q rest
  | case2 c s hnone => cases h
  | case3 c s ts' s' hstep ih =>
    obtain ⟨r, hr, heq⟩ := Option.map_eq_some_iff.1 h
    cases heq
    rw [List.cons_append, lexChars_cons (lexStep_append_newline hq hstep rest), ih hr,
      Option.map_map]
    simp [Function.comp_def]

/-- A step that reads no token reads white space or a comment. -/
theorem lexStep_eq_nil (h : lexStep q c s = some ([], s')) :
    (∀ t, lexStep q c t = some ([], t)) ∧ s' = s ∨
      s.head? = some '-' ∧ s' = s.dropWhile (· ≠ '\n') ∧
        ∀ t, t.head? = some '-' → lexStep q c t = some ([], t.dropWhile (· ≠ '\n')) := by
  unfold lexStep at h ⊢
  split at h
  · cases h
    exact .inl ⟨fun t => if_pos ‹_›, rfl⟩
  split at h
  · obtain ⟨r, -, heq⟩ := Option.map_eq_some_iff.1 h
    cases heq
  split at h
  · cases h
  split at h
  · cases h
  split at h
  · next hspace hopens hword hmark hdash =>
    cases h
    refine .inr ⟨hdash.2, rfl, fun t ht => ?_⟩
    rw [if_neg hspace, if_neg hopens, if_neg hword, if_neg hmark, if_pos ⟨hdash.1, ht⟩]
  · cases h

/-- Where nothing is read before and after a line break, nothing is read before it. -/
theorem lexChars_of_append_newline (h : lexChars q (s ++ '\n' :: rest) = some []) :
    lexChars q s = some [] := by
  generalize htext : s ++ '\n' :: rest = text at h
  fun_induction lexChars q text generalizing s with
  | case1 => simp at htext
  | case2 c text hnone => cases h
  | case3 c text ts text' hstep ih =>
    obtain ⟨r, hr, heq⟩ := Option.map_eq_some_iff.1 h
    obtain ⟨rfl, rfl⟩ := List.append_eq_nil_iff.1 heq
    cases s with
    | nil => rw [lexChars]
    | cons c' s =>
      obtain ⟨rfl, rfl⟩ := List.cons.inj htext
      rcases lexStep_eq_nil hstep with ⟨hblank, rfl⟩ | ⟨hdash, rfl, hcomment⟩
      · rw [lexChars_cons (hblank s), ih rfl hr]
        rfl
      · have hdash' : s.head? = some '-' := by
          cases s with
          | nil => simp at hdash
          | cons c s => exact hdash
        have hrest := (while_append_of_stop (p := (· ≠ '\n')) '\n' (by simp) s rest).2
        rw [lexChars_cons (hcomment s hdash'), ih hrest.symm hr]
        rfl

end Sql

open Text Sql

/-! ## Words and marks of statements -/

/-- The words and marks of statements. -/
def fixedTokens : List Token :=
  ["SELECT", "SUM", "COUNT", "AVG", "MIN", "MAX", "AS", "FROM", "INNER", "LEFT", "RIGHT", "FULL",
    "OUTER", "JOIN", "ON", "GROUP", "BY"].map .word ++ [',', '.', '(', ')', '='].map .mark

/-- Whether a token is a name or one of the words and marks that do not depend on names. -/
def Sql.Token.isUsual : Token → Bool
  | .name _ => true
  | t => fixedTokens.contains t

theorem forall_mem_intercalate {p : α → Prop} {sep : List α} {lss : List (List α)}
    (hsep : ∀ a ∈ sep, p a) (h : ∀ ls ∈ lss, ∀ a ∈ ls, p a) : ∀ a ∈ sep.intercalate lss, p a := by
  induction lss with
  | nil => exact List.forall_mem_nil _
  | cons ls lss ih =>
    obtain ⟨hls, hlss⟩ := List.forall_mem_cons.1 h
    cases lss with
    | nil => simpa using hls
    | cons ls' lss =>
      rw [List.intercalate_cons_cons]
      exact List.forall_mem_append.2 ⟨List.forall_mem_append.2 ⟨hls, hsep⟩, ih hlss⟩

theorem isUsual_dottedTokens (name : String) : ∀ t ∈ dottedTokens name, t.isUsual = true := by
  refine forall_mem_intercalate (by decide) fun ls hls => ?_
  obtain ⟨part, -, rfl⟩ := List.mem_map.1 hls
  exact List.forall_mem_singleton.2 rfl

theorem isUsual_aggregatedTokens (column : String × Aggregate) :
    ∀ t ∈ aggregatedTokens column, t.isUsual = true := by
  have hname : (Token.name column.1).isUsual = true := rfl
  cases hop : column.2 <;> simp +decide [aggregatedTokens, hop, hname]

theorem Join.isUsual_tokens (j : Join) : ∀ t ∈ j.tokens, t.isUsual = true := by
  have hkind : ∀ t ∈ j.kind.tokens, t.isUsual = true := by
    cases j.kind <;> decide
  simp only [tokens, List.forall_mem_append, List.forall_mem_cons]
  exact ⟨⟨⟨hkind, by decide, isUsual_dottedTokens j.table⟩, by decide,
    isUsual_dottedTokens j.left⟩, by decide, isUsual_dottedTokens j.right⟩

theorem isUsual_groupByTokens (columns : List String) :
    ∀ t ∈ groupByTokens columns, t.isUsual = true := by
  have hcolumns : ∀ t ∈ [.mark ','].intercalate (columns.map dottedTokens), t.isUsual = true :=
    forall_mem_intercalate (by decide)
      (List.forall_mem_map.2 fun c _ => isUsual_dottedTokens c)
  unfold groupByTokens
  split
  · exact List.forall_mem_nil _
  · exact List.forall_mem_cons.2 ⟨by decide, List.forall_mem_cons.2 ⟨by decide, hcolumns⟩⟩

/-- The tokens of a query that are no names are always among the same few. -/
theorem FactQuery.isUsual_tokens (q : FactQuery) : ∀ t ∈ q.tokens, t.isUsual = true := by
  have hselect : ∀ t ∈ [.mark ','].intercalate (q.plainColumns.map dottedTokens ++
      q.aggregatedColumns.map aggregatedTokens), t.isUsual = true := by
    refine forall_mem_intercalate (by decide) ?_
    simp only [List.forall_mem_append, List.forall_mem_map]
    exact ⟨fun c _ => isUsual_dottedTokens c, fun c _ => isUsual_aggregatedTokens c⟩
  simp only [tokens, List.forall_mem_append, List.forall_mem_cons, List.forall_mem_flatMap]
  exact ⟨⟨⟨⟨by decide, hselect⟩, by decide, isUsual_dottedTokens q.fromTable⟩,
    fun j _ => j.isUsual_tokens⟩, isUsual_groupByTokens q.groupBy⟩

/-! ## What is printed -/

section Printed
variable {d : Dialect} {opening closing : Char}

theorem opens_dash (hd : (d, opening, closing) ∈ quotingDialects) :
    opens (.enclosed opening closing) '-' = false := by
  have hall : ∀ x ∈ quotingDialects, opens (.enclosed x.2.1 x.2.2) '-' = false := by decide
  exact hall _ hd

theorem lex_of_render (hd : (d, opening, closing) ∈ quotingDialects) {q : FactQuery}
    (h : d.render q = .ok sql) : lex (.enclosed opening closing) sql = some q.tokens := by
  rw [render_eq_spell] at h
  cases hbreach : q.breach? with
  | some b =>
    rw [hbreach] at h
    cases h
  | none =>
    rw [hbreach] at h
    cases h
    rw [lex_spell hd q.readable_lexemes, q.tokens_lexemes]

namespace CommandLine

/-- What follows the first line of a text, from the line break on. -/
def laterLines (s : String) : String := String.ofList (s.toList.dropWhile (· ≠ '\n'))

theorem laterLines_of_notMem (h : '\n' ∉ s.toList) : laterLines s = "" := by
  have hline : ∀ c ∈ s.toList, decide (c ≠ '\n') = true := by
    intro c hc
    refine decide_eq_true ?_
    rintro rfl
    exact h hc
  rw [laterLines, List.dropWhile_eq_nil_iff.2 hline]

/-- Of the name above a statement, the first line is a comment and the others are read. -/
theorem lexChars_header (hd : (d, opening, closing) ∈ quotingDialects) (name : String)
    (rest : List Char) :
    lexChars (.enclosed opening closing) ((line ("-- " ++ name)).toList ++ rest) =
      lexChars (.enclosed opening closing) ((laterLines name).toList ++ '\n' :: rest) := by
  have hchars : (line ("-- " ++ name)).toList ++ rest =
      '-' :: '-' :: ' ' :: (name.toList ++ '\n' :: rest) := by simp [line]
  have hstep : lexStep (.enclosed opening closing) '-'
      ('-' :: ' ' :: (name.toList ++ '\n' :: rest)) =
        some ([], (laterLines name).toList ++ '\n' :: rest) := by
    have hdash : isWordChar '-' = false ∧ isMark '-' = false := by decide
    have hdrop := (while_append_of_stop (p := (· ≠ '\n')) '\n' (by simp) name.toList rest).2
    simpa [lexStep, opens_dash hd, hdash, laterLines] using hdrop
  rw [hchars, lexChars_cons hstep]
  simp

/-- The line above a statement adds nothing to what follows exactly if the later lines of the name
have no tokens. -/
theorem lex_header_iff (hd : (d, opening, closing) ∈ quotingDialects) (name : String) :
    (∀ text, lex (.enclosed opening closing) (line ("-- " ++ name) ++ text) =
      lex (.enclosed opening closing) text) ↔
      lex (.enclosed opening closing) (laterLines name) = some [] := by
  obtain ⟨-, -, hc⟩ := quoting_of_mem_quotingDialects hd
  simp only [lex, String.toList_append, lexChars_header hd name]
  constructor
  · intro h
    refine lexChars_of_append_newline ((h "").trans ?_)
    rw [String.toList_empty, lexChars]
  · intro h text
    rw [lexChars_append_newline (closes_newline hc) h]
    simp

theorem lexChars_printed (hd : (d, opening, closing) ∈ quotingDialects) {f : CompiledFact}
    (hlater : lex (.enclosed opening closing) (laterLines f.name) = some later)
    (hsql : lex (.enclosed opening closing) f.sql = some tokens) (rest : List Char) :
    lexChars (.enclosed opening closing)
        ((line ("-- " ++ f.name) ++ line f.sql ++ line "").toList ++ rest) =
      (lexChars (.enclosed opening closing) rest).map (later ++ tokens ++ ·) := by
  obtain ⟨-, -, hc⟩ := quoting_of_mem_quotingDialects hd
  have hnewline : closes (.enclosed opening closing) '\n' = false := closes_newline hc
  have hchars : (line ("-- " ++ f.name) ++ line f.sql ++ line "").toList ++ rest =
      (line ("-- " ++ f.name)).toList ++ (f.sql.toList ++ '\n' :: '\n' :: rest) := by
    simp [line]
  rw [hchars, lexChars_header hd, lexChars_append_newline hnewline hlater,
    lexChars_append_newline hnewline hsql, lexChars_newline, Option.map_map]
  simp [Function.comp_def]

/-- What is printed has the tokens of the later lines of every name before those of its
statement. -/
theorem lex_printStatements (hd : (d, opening, closing) ∈ quotingDialects) (r : Report)
    (later : CompiledFact → List Token) {tokens : CompiledFact → List Token}
    (hlater : ∀ f ∈ r.compiled,
      lex (.enclosed opening closing) (laterLines f.name) = some (later f))
    (hsql : ∀ f ∈ r.compiled, lex (.enclosed opening closing) f.sql = some (tokens f)) :
    lex (.enclosed opening closing) (printStatements r) =
      some (r.compiled.flatMap fun f => later f ++ tokens f) := by
  rw [lex, printStatements]
  generalize r.compiled = fs at hlater hsql
  induction fs with
  | nil => simp [lexChars]
  | cons f fs ih =>
    obtain ⟨hf, hfs⟩ := List.forall_mem_cons.1 hlater
    obtain ⟨hf', hfs'⟩ := List.forall_mem_cons.1 hsql
    rw [List.map_cons, String.join_cons, String.toList_append, lexChars_printed hd hf hf',
      ih hfs hfs']
    rfl

theorem length_flatMap_le (f g : α → List β) (as : List α) :
    (as.flatMap g).length ≤ (as.flatMap fun a => f a ++ g a).length := by
  induction as with
  | nil => exact Nat.le_refl _
  | cons a as ih =>
    simp only [List.flatMap_cons, List.length_append]
    omega

theorem flatMap_append_eq_iff {f g : α → List β} {as : List α} :
    (as.flatMap fun a => f a ++ g a) = as.flatMap g ↔ ∀ a ∈ as, f a = [] := by
  induction as with
  | nil => simp
  | cons a as ih =>
    rw [List.forall_mem_cons, ← ih, List.flatMap_cons, List.flatMap_cons]
    constructor
    · intro h
      have hlength := congrArg List.length h
      have hle := length_flatMap_le f g as
      simp only [List.length_append] at hlength
      have hnil : f a = [] := List.length_eq_zero_iff.1 (by omega)
      rw [hnil, List.nil_append] at h
      exact ⟨hnil, List.append_cancel_left h⟩
    · rintro ⟨hnil, hrest⟩
      rw [hnil, hrest, List.nil_append]

/-- The query behind every statement of a report. -/
theorem exists_queries (m : Model) (o : CompileOptions) :
    ∃ query : CompiledFact → FactQuery,
      ∀ f ∈ (m.compile o).compiled, o.dialect.render (query f) = .ok f.sql := by
  have hquery : ∀ f ∈ (m.compile o).compiled, ∃ q, o.dialect.render q = .ok f.sql := by
    intro f hf
    obtain ⟨fact, -, hfact⟩ := List.mem_map.1 (Report.mem_compiled_ofOutcomes.1 hf)
    obtain ⟨q, -, hrender, -⟩ := Model.exists_query_of_compileFact hfact
    exact ⟨q, hrender⟩
  choose! query hquery using hquery
  exact ⟨query, hquery⟩

/-- What the command prints in a dialect that quotes names. Where every name is one line, it has
the tokens of the statements in the order of the report and no others, and those that are no names
are always among the same few. The later lines of a name are read as they stand: if they have
tokens, these come before the statement, so what is printed has the tokens of the statements alone
exactly if no name has such lines. -/
theorem lex_stdout {o : CompileOptions} (hd : (o.dialect, opening, closing) ∈ quotingDialects)
    (m : Model) (c : Context) (s : Settings) {a : CompileArguments} (ha : a.stdout = true) :
    ∃ query : CompiledFact → FactQuery,
      (∀ f ∈ (m.compile o).compiled, o.dialect.render (query f) = .ok f.sql ∧
        lex (.enclosed opening closing) f.sql = some (query f).tokens ∧
        ∀ t ∈ (query f).tokens, t.isUsual = true) ∧
      ((∀ f ∈ (m.compile o).compiled, '\n' ∉ f.name.toList) →
        lex (.enclosed opening closing) (deliver c s a (m.compile o)).stdout =
          some ((m.compile o).compiled.flatMap fun f => (query f).tokens)) ∧
      (∀ later : CompiledFact → List Token,
        (∀ f ∈ (m.compile o).compiled,
          lex (.enclosed opening closing) (laterLines f.name) = some (later f)) →
        lex (.enclosed opening closing) (deliver c s a (m.compile o)).stdout =
            some ((m.compile o).compiled.flatMap fun f => later f ++ (query f).tokens) ∧
          (lex (.enclosed opening closing) (deliver c s a (m.compile o)).stdout =
              some ((m.compile o).compiled.flatMap fun f => (query f).tokens) ↔
            ∀ f ∈ (m.compile o).compiled, later f = [])) ∧
      ∀ name, (∀ text, lex (.enclosed opening closing) (line ("-- " ++ name) ++ text) =
          lex (.enclosed opening closing) text) ↔
        lex (.enclosed opening closing) (laterLines name) = some [] := by
  obtain ⟨query, hquery⟩ := exists_queries m o
  have hsql : ∀ f ∈ (m.compile o).compiled,
      lex (.enclosed opening closing) f.sql = some (query f).tokens := fun f hf =>
    lex_of_render hd (hquery f hf)
  have hstdout : (deliver c s a (m.compile o)).stdout = printStatements (m.compile o) := by
    rw [deliver, if_pos ha]
    rfl
  rw [hstdout]
  refine ⟨query, fun f hf => ⟨hquery f hf, hsql f hf, (query f).isUsual_tokens⟩, fun hlines => ?_,
    fun later hlater => ?_, fun name => lex_header_iff hd name⟩
  · have hlater : ∀ f ∈ (m.compile o).compiled,
        lex (.enclosed opening closing) (laterLines f.name) = some [] := by
      intro f hf
      rw [laterLines_of_notMem (hlines f hf), lex, String.toList_empty, lexChars]
    exact lex_printStatements hd _ (fun _ => []) hlater hsql
  · have hprinted := lex_printStatements hd _ later hlater hsql
    refine ⟨hprinted, ?_⟩
    rw [hprinted, Option.some.injEq]
    exact flatMap_append_eq_iff

/-- Orders under a name that would end the statement if it were not quoted, and refunds under a name
whose second line is a comment. -/
def quotedOrders : Model :=
  (Model.empty.addFact { name := "orders\"; DROP TABLE users; --", grain := ["order_no"] }).addFact
    { name := "fact_refunds\n  -- by day", grain := ["refund_no"] }

theorem lex_stdout_quotedOrders :
    ((quotedOrders.compile { dialect := .postgres }).compiled.map fun f => laterLines f.name) =
      ["", "\n  -- by day"] ∧
    ∃ query : CompiledFact → FactQuery,
      (∀ f ∈ (quotedOrders.compile { dialect := .postgres }).compiled,
        lex (.enclosed '"' '"') f.sql = some (query f).tokens) ∧
      lex (.enclosed '"' '"') (deliver { disk := {} } {} { stdout := true }
          (quotedOrders.compile { dialect := .postgres })).stdout =
        some ((quotedOrders.compile { dialect := .postgres }).compiled.flatMap fun f =>
          (query f).tokens) := by
  have hd : (Dialect.postgres, '"', '"') ∈ quotingDialects := by decide
  obtain ⟨query, hquery, -, hlater, -⟩ := lex_stdout (o := { dialect := .postgres }) hd
    quotedOrders { disk := {} } {} (a := { stdout := true }) rfl
  refine ⟨by decide +kernel, query, fun f hf => (hquery f hf).2.1, ?_⟩
  exact ((hlater (fun _ => []) (by decide +kernel)).2).2 fun _ _ => rfl

/-- Orders under a name that has a second line. -/
def brokenOrders : Model :=
  Model.empty.addFact { name := "fact_orders\nDROP TABLE users; --", grain := ["order_no"] }

/-- The second line of the name is read as a statement before the one of the report. -/
theorem stdout_brokenOrders :
    ∃ statement printed : List Token,
      ((brokenOrders.compile { dialect := .postgres }).compiled.map fun f =>
        lex (.enclosed '"' '"') f.sql) = [some statement] ∧
      lex (.enclosed '"' '"') (deliver { disk := {} } {} { stdout := true }
        (brokenOrders.compile { dialect := .postgres })).stdout = some printed ∧
      printed = [.word "DROP", .word "TABLE", .word "users", .mark ';'] ++ statement ∧
      printed ≠ statement := by
  let statement : List Token := [.word "SELECT", .name "order_no", .word "FROM",
    .name "fact_orders\nDROP TABLE users; --", .word "GROUP", .word "BY", .name "order_no"]
  exact ⟨statement, _, by decide +kernel, by decide +kernel, rfl, by decide +kernel⟩

end CommandLine
end Printed
end FactViews
