import FactViews.Artifact.Emitter
import FactViews.Statement
import FactViews.Proofs.Lexemes

/-! # The tokens of a statement

A statement is the text of a list of lexemes that is determined by the query alone
(`render_eq_spell`), so a dialect decides how names are quoted and nothing else. The list is
readable, whatever the names of the query are. So the statement has exactly the tokens of the query
in every dialect that quotes names (`lex_render`), also when it is wrapped into a view or ended by a
semicolon, and without its quotes it is the statement of the generic dialect (`unquote_render`). -/

namespace FactViews
open Text Sql

/-- The dialects that quote names, each with the characters before and after a name. -/
def quotingDialects : List (Dialect × Char × Char) :=
  [(.postgres, '"', '"'), (.duckdb, '"', '"'), (.mysql, '\x60', '\x60'), (.tsql, '[', ']')]

/-! ## Tokens of queries -/

/-- The parts of a dotted name, with the dots between them. -/
def dottedTokens (name : String) : List Token :=
  [.mark '.'].intercalate ((splitOn '.' name).map fun part => [.name part])

/-- An aggregated column under the name of its measure. -/
def aggregatedTokens (column : String × Aggregate) : List Token :=
  [.word column.2.keyword, .mark '(', .name column.1, .mark ')', .word "AS", .name column.1]

/-- The words that name a join. -/
def JoinKind.tokens : JoinKind → List Token
  | .inner => [.word "INNER"]
  | .left => [.word "LEFT"]
  | .right => [.word "RIGHT"]
  | .full => [.word "FULL", .word "OUTER"]

/-- A join clause. -/
def Join.tokens (j : Join) : List Token :=
  j.kind.tokens ++ .word "JOIN" :: dottedTokens j.table ++
    .word "ON" :: dottedTokens j.left ++ .mark '=' :: dottedTokens j.right

/-- The grouping clause, if there is one. -/
def groupByTokens (columns : List String) : List Token :=
  if columns.isEmpty then []
  else .word "GROUP" :: .word "BY" :: [.mark ','].intercalate (columns.map dottedTokens)

/-- The tokens of a query. -/
def FactQuery.tokens (q : FactQuery) : List Token :=
  .word "SELECT" :: [.mark ','].intercalate
      (q.plainColumns.map dottedTokens ++ q.aggregatedColumns.map aggregatedTokens) ++
    .word "FROM" :: dottedTokens q.fromTable ++ q.joins.flatMap Join.tokens ++
    groupByTokens q.groupBy

/-- The words that begin a view. -/
def Dialect.viewTokens : Dialect → List Token
  | .tsql => [.word "CREATE", .word "OR", .word "ALTER", .word "VIEW"]
  | _ => [.word "CREATE", .word "OR", .word "REPLACE", .word "VIEW"]

/-- The tokens of the artifact of a fact whose statement has the given tokens. -/
def Emitter.tokens (e : Emitter) (name : String) (statement : List Token) : List Token :=
  (if e.options.wrapView then e.dialect.viewTokens ++ [.name name, .word "AS"] else []) ++
    statement ++ if e.options.terminator then [.mark ';'] else []

/-! ## Lexemes of queries

The same lists, with the white space that a statement has between tokens. -/

def dottedLexemes (name : String) : List Lexeme :=
  [.mark '.'].intercalate ((splitOn '.' name).map fun part => [.name part])

def aggregatedLexemes (column : String × Aggregate) : List Lexeme :=
  [.word column.2.keyword, .mark '(', .name column.1, .mark ')', .blank " ", .word "AS",
    .blank " ", .name column.1]

def JoinKind.lexemes : JoinKind → List Lexeme
  | .inner => [.word "INNER"]
  | .left => [.word "LEFT"]
  | .right => [.word "RIGHT"]
  | .full => [.word "FULL", .blank " ", .word "OUTER"]

def Join.lexemes (j : Join) : List Lexeme :=
  j.kind.lexemes ++ .blank " " :: .word "JOIN" :: .blank " " :: dottedLexemes j.table ++
    .blank " " :: .word "ON" :: .blank " " :: dottedLexemes j.left ++
    .blank " " :: .mark '=' :: .blank " " :: dottedLexemes j.right

def groupByLexemes (columns : List String) : List (List Lexeme) :=
  if columns.isEmpty then []
  else [.word "GROUP" :: .blank " " :: .word "BY" :: .blank " " ::
    [.mark ',', .blank " "].intercalate (columns.map dottedLexemes)]

def FactQuery.selectLexemes (q : FactQuery) : List Lexeme :=
  .word "SELECT" :: .blank "\n  " :: [.mark ',', .blank "\n  "].intercalate
    (q.plainColumns.map dottedLexemes ++ q.aggregatedColumns.map aggregatedLexemes)

def FactQuery.fromLexemes (q : FactQuery) : List Lexeme :=
  .word "FROM" :: .blank " " :: dottedLexemes q.fromTable

/-- The lexemes of a query, a clause on each line. -/
def FactQuery.lexemes (q : FactQuery) : List Lexeme :=
  [.blank "\n"].intercalate
    (q.selectLexemes :: q.fromLexemes :: (q.joins.map Join.lexemes ++ groupByLexemes q.groupBy))

def Dialect.viewLexemes (d : Dialect) : List Lexeme :=
  [.word "CREATE", .blank " ", .word "OR", .blank " ",
    .word (if d.hasCreateOrReplace then "REPLACE" else "ALTER"), .blank " ", .word "VIEW"]

def Emitter.lexemes (e : Emitter) (name : String) (statement : List Lexeme) : List Lexeme :=
  (if e.options.wrapView then
    e.dialect.viewLexemes ++ [.blank " ", .name name, .blank " ", .word "AS", .blank "\n"]
  else []) ++
    statement ++ if e.options.terminator then [.mark ';'] else []

/-! ## The text of the lexemes is the statement -/

section Spelling
variable (d : Dialect)

theorem spell_dottedLexemes (name : String) :
    spell d.quoting (dottedLexemes name) = d.quoteQualified name := by
  simp only [dottedLexemes, spell_intercalate, Dialect.quoteQualified, List.map_map,
    Function.comp_def, spell_cons, spell_nil, Lexeme.text, String.append_empty]
  rfl

theorem spell_aggregatedLexemes (column : String × Aggregate) :
    spell d.quoting (aggregatedLexemes column) = d.renderAggregated column := by
  rw [← String.toList_inj]
  simp [aggregatedLexemes, Dialect.renderAggregated, Lexeme.text, Dialect.quote]

theorem spell_joinLexemes (j : Join) : spell d.quoting j.lexemes = d.renderJoin j := by
  have hkind : spell d.quoting j.kind.lexemes = j.kind.keyword := by
    cases j.kind <;> rfl
  rw [← String.toList_inj]
  simp [Join.lexemes, Dialect.renderJoin, hkind, spell_dottedLexemes, Lexeme.text]

theorem spell_commaSeparated (blank : String) (lss : List (List Lexeme)) :
    spell d.quoting ([.mark ',', .blank blank].intercalate lss) =
      joinWith ("," ++ blank) (lss.map (spell d.quoting)) := by
  simp only [spell_intercalate, spell_cons, spell_nil, Lexeme.text, String.append_empty]
  rfl

theorem spell_groupByLexemes (columns : List String) :
    (groupByLexemes columns).map (spell d.quoting) = d.renderGroupBy columns := by
  unfold groupByLexemes Dialect.renderGroupBy
  split
  · rfl
  · rw [List.map_singleton, List.singleton_inj, ← String.toList_inj]
    simp [spell_commaSeparated, spell_dottedLexemes, Lexeme.text, Function.comp_def]

theorem spell_selectLexemes (q : FactQuery) :
    spell d.quoting q.selectLexemes = d.renderSelect q := by
  rw [← String.toList_inj]
  simp [FactQuery.selectLexemes, Dialect.renderSelect, spell_commaSeparated, spell_dottedLexemes,
    spell_aggregatedLexemes, Lexeme.text, Function.comp_def]

theorem spell_fromLexemes (q : FactQuery) : spell d.quoting q.fromLexemes = d.renderFrom q := by
  rw [← String.toList_inj]
  simp [FactQuery.fromLexemes, Dialect.renderFrom, spell_dottedLexemes, Lexeme.text]

theorem spell_lexemes (q : FactQuery) :
    spell d.quoting q.lexemes = joinWith "\n" (d.clauses q) := by
  have hjoins : (q.joins.map Join.lexemes).map (spell d.quoting) = q.joins.map d.renderJoin := by
    simp [spell_joinLexemes]
  simp only [FactQuery.lexemes, spell_intercalate, List.map_cons, List.map_append, hjoins,
    spell_selectLexemes, spell_fromLexemes, spell_groupByLexemes, Dialect.clauses]
  rfl

/-- The dialect only decides how the lexemes of a query are spelled. -/
theorem render_eq_spell (q : FactQuery) :
    d.render q = match q.breach? with
      | some b => .error (.breach q.fromTable b)
      | none => .ok (spell d.quoting q.lexemes) := by
  rw [spell_lexemes]
  rfl

theorem spell_viewLexemes : spell d.quoting d.viewLexemes = d.viewKeyword := by
  cases d <;> rfl

theorem spell_emitterLexemes (e : Emitter) (f : CompiledFact) (ls : List Lexeme)
    (h : spell e.dialect.quoting ls = f.sql) :
    spell e.dialect.quoting (e.lexemes f.name ls) = e.content f := by
  rw [← String.toList_inj]
  unfold Emitter.lexemes Emitter.content
  cases e.options.wrapView <;> cases e.options.terminator <;>
    simp [h, spell_viewLexemes, Lexeme.text, Dialect.quote]

end Spelling

/-! ## The lexemes are readable -/

theorem readable_commaSeparated (blank : String) {lss : List (List Lexeme)}
    (hblank : (Lexeme.blank blank).isValid = true) (h : ∀ ls ∈ lss, Readable ls) :
    Readable ([.mark ',', .blank blank].intercalate lss) := by
  refine readable_intercalate (by simp) (fun s hs => ?_) h
  rcases List.mem_pair.1 hs with rfl | rfl
  · exact ⟨rfl, by decide⟩
  · exact ⟨rfl, hblank⟩

theorem readable_dottedLexemes (name : String) : Readable (dottedLexemes name) := by
  refine readable_intercalate (by simp) (by decide) fun ls hls => ?_
  obtain ⟨part, -, rfl⟩ := List.mem_map.1 hls
  exact readable_singleton.2 rfl

theorem readable_aggregatedLexemes (column : String × Aggregate) :
    Readable (aggregatedLexemes column) := by
  have hkeyword : (Lexeme.word column.2.keyword).isValid = true := by
    cases column.2 <;> decide
  have hname : (Lexeme.name column.1).isValid = true := rfl
  simp +decide [aggregatedLexemes, hkeyword, hname]

theorem readable_joinLexemes (j : Join) : Readable j.lexemes := by
  have hkind : Readable j.kind.lexemes := by
    cases j.kind <;> simp +decide [JoinKind.lexemes]
  simp +decide [Join.lexemes, hkind, readable_dottedLexemes]

theorem readable_groupByLexemes (hls : ls ∈ groupByLexemes columns) : Readable ls := by
  have hcolumns : ∀ ls ∈ columns.map dottedLexemes, Readable ls := by
    simp [readable_dottedLexemes]
  unfold groupByLexemes at hls
  split at hls
  · cases hls
  · rw [List.mem_singleton.1 hls]
    simp +decide [readable_commaSeparated " " (by decide) hcolumns]

theorem FactQuery.readable_selectLexemes (q : FactQuery) : Readable q.selectLexemes := by
  have hcolumns : ∀ ls ∈ q.plainColumns.map dottedLexemes ++
      q.aggregatedColumns.map aggregatedLexemes, Readable ls := by
    simp only [List.forall_mem_append, List.forall_mem_map]
    exact ⟨fun c _ => readable_dottedLexemes c, fun c _ => readable_aggregatedLexemes c⟩
  simp +decide [selectLexemes, readable_commaSeparated "\n  " (by decide) hcolumns]

theorem FactQuery.readable_lexemes (q : FactQuery) : Readable q.lexemes := by
  have hfrom : Readable q.fromLexemes := by
    simp +decide [fromLexemes, readable_dottedLexemes]
  refine readable_intercalate (by simp) (by decide) ?_
  simp only [List.forall_mem_cons, List.forall_mem_append, List.forall_mem_map]
  exact ⟨q.readable_selectLexemes, hfrom, fun j _ => readable_joinLexemes j,
    fun ls hls => readable_groupByLexemes hls⟩

theorem readable_emitterLexemes (e : Emitter) (name : String) (h : Readable ls) :
    Readable (e.lexemes name ls) := by
  have hview : Readable e.dialect.viewLexemes := by
    cases e.dialect <;> simp +decide [Dialect.viewLexemes]
  have hname : (Lexeme.name name).isValid = true := rfl
  unfold Emitter.lexemes
  cases e.options.wrapView <;> cases e.options.terminator <;>
    simp +decide [h, hview, hname]

/-! ## The tokens among the lexemes -/

theorem tokens_dottedLexemes (name : String) :
    (dottedLexemes name).flatMap Lexeme.tokens = dottedTokens name := by
  simp [dottedLexemes, dottedTokens, flatMap_intercalate, Lexeme.tokens, Function.comp_def]

theorem tokens_commaSeparated (blank : String) (lss : List (List Lexeme)) :
    ([.mark ',', .blank blank].intercalate lss).flatMap Lexeme.tokens =
      [.mark ','].intercalate (lss.map (·.flatMap Lexeme.tokens)) := by
  simp [flatMap_intercalate, Lexeme.tokens]

theorem tokens_aggregatedLexemes (column : String × Aggregate) :
    (aggregatedLexemes column).flatMap Lexeme.tokens = aggregatedTokens column := rfl

theorem tokens_joinLexemes (j : Join) : j.lexemes.flatMap Lexeme.tokens = j.tokens := by
  have hkind : j.kind.lexemes.flatMap Lexeme.tokens = j.kind.tokens := by
    cases j.kind <;> rfl
  simp [Join.lexemes, Join.tokens, hkind, tokens_dottedLexemes, Lexeme.tokens]

theorem tokens_groupByLexemes (columns : List String) :
    ((groupByLexemes columns).map (·.flatMap Lexeme.tokens)).flatten = groupByTokens columns := by
  unfold groupByLexemes groupByTokens
  split
  · rfl
  · simp [tokens_commaSeparated, tokens_dottedLexemes, Lexeme.tokens, Function.comp_def]

theorem FactQuery.tokens_lexemes (q : FactQuery) : q.lexemes.flatMap Lexeme.tokens = q.tokens := by
  have hselect : q.selectLexemes.flatMap Lexeme.tokens =
      .word "SELECT" :: [.mark ','].intercalate
        (q.plainColumns.map dottedTokens ++ q.aggregatedColumns.map aggregatedTokens) := by
    simp [selectLexemes, tokens_commaSeparated, tokens_dottedLexemes, tokens_aggregatedLexemes,
      Lexeme.tokens, Function.comp_def]
  have hfrom : q.fromLexemes.flatMap Lexeme.tokens =
      .word "FROM" :: dottedTokens q.fromTable := by
    simp [fromLexemes, tokens_dottedLexemes, Lexeme.tokens]
  have hjoins : (q.joins.map Join.lexemes).map (·.flatMap Lexeme.tokens) =
      q.joins.map Join.tokens := by
    simp [tokens_joinLexemes]
  have hblank : [Lexeme.blank "\n"].flatMap Lexeme.tokens = [] := rfl
  rw [lexemes, flatMap_intercalate, hblank, nil_intercalate]
  simp only [List.map_cons, List.map_append, List.flatten_cons, List.flatten_append, hselect,
    hfrom, hjoins, tokens_groupByLexemes]
  simp [tokens, List.flatMap_def]

theorem tokens_emitterLexemes (e : Emitter) (name : String) (ls : List Lexeme) :
    (e.lexemes name ls).flatMap Lexeme.tokens = e.tokens name (ls.flatMap Lexeme.tokens) := by
  have hview : e.dialect.viewLexemes.flatMap Lexeme.tokens = e.dialect.viewTokens := by
    cases e.dialect <;> rfl
  unfold Emitter.lexemes Emitter.tokens
  cases e.options.wrapView <;> cases e.options.terminator <;>
    simp [hview, Lexeme.tokens]

/-! ## Statements and artifacts -/

section Quoting
variable {d : Dialect} {opening closing : Char}

theorem quoting_of_mem_quotingDialects (hd : (d, opening, closing) ∈ quotingDialects) :
    d.quoting = .enclosed opening closing ∧ isPlain opening = false ∧ isPlain closing = false := by
  have hall : ∀ x ∈ quotingDialects, x.1.quoting = .enclosed x.2.1 x.2.2 ∧
      isPlain x.2.1 = false ∧ isPlain x.2.2 = false := by decide
  exact hall _ hd

theorem startsApart_nil : StartsApart [] := by
  intro c hc
  cases hc

/-- A dialect that quotes names writes readable lists so that their tokens are found again. -/
theorem lex_spell (hd : (d, opening, closing) ∈ quotingDialects) (h : Readable ls) :
    lex (.enclosed opening closing) (spell d.quoting ls) = some (ls.flatMap Lexeme.tokens) := by
  obtain ⟨hq, ho, hc⟩ := quoting_of_mem_quotingDialects hd
  have hread := lexChars_spell ho hc h startsApart_nil
  rw [hq, lex]
  simpa [lexChars] using hread

/-- It writes them so that they differ from the generic ones in quotes only. -/
theorem unquote_spell (hd : (d, opening, closing) ∈ quotingDialects) (h : Readable ls) :
    unquote (.enclosed opening closing) (spell d.quoting ls) =
      some (spell Dialect.generic.quoting ls) := by
  obtain ⟨hq, ho, hc⟩ := quoting_of_mem_quotingDialects hd
  have hread := unquoteChars_spell ho hc h startsApart_nil
  have hgeneric : Dialect.generic.quoting = .verbatim := rfl
  rw [List.append_nil, unquoteChars] at hread
  simp [hq, hgeneric, unquote, hread]

/-- The statement of a query in a dialect that quotes names has the tokens of the query and no
others, whatever characters its names hold. So has its artifact, with the words and the name of
the view before them and the semicolon after them. -/
theorem lex_render (hd : (d, opening, closing) ∈ quotingDialects) {q : FactQuery} {sql : String}
    (h : d.render q = .ok sql) :
    lex (.enclosed opening closing) sql = some q.tokens ∧
      ∀ (e : Emitter) (name : String), e.dialect = d →
        lex (.enclosed opening closing) (e.content ⟨name, sql⟩) =
          some (e.tokens name q.tokens) := by
  have hsql : spell d.quoting q.lexemes = sql := by
    rw [render_eq_spell] at h
    split at h
    · cases h
    · exact Except.ok.inj h
  refine ⟨?_, ?_⟩
  · rw [← hsql, lex_spell hd q.readable_lexemes, q.tokens_lexemes]
  · rintro e name rfl
    rw [← spell_emitterLexemes e ⟨name, sql⟩ q.lexemes hsql,
      lex_spell hd (readable_emitterLexemes e name q.readable_lexemes),
      tokens_emitterLexemes, q.tokens_lexemes]

/-- A query whose names hold quotes, dots, line breaks and the end of a statement. -/
def hostileQuery : FactQuery where
  fromTable := "sales]; --.eu"
  joins := [{ table := "dim", left := "a]]", right := "dim.[b", kind := .full }]
  groupBy := ["", "day\n"]
  grainColumns := ["", "day\n"]
  measures := ["\""]
  aggregations := .ofList [("\"", ⟨"\"", .max⟩)]

/-- The statement of `hostileQuery` in T-SQL. -/
def hostileStatement : String :=
  "SELECT\n  [],\n  [day\n],\n  MAX([\"]) AS [\"]\nFROM [sales]]; --].[eu]\n" ++
    "FULL OUTER JOIN [dim] ON [a]]]]] = [dim].[[b]\nGROUP BY [], [day\n]"

theorem lex_hostileStatement :
    Dialect.tsql.render hostileQuery = .ok hostileStatement ∧
      lex (.enclosed '[' ']') hostileStatement = some [
        .word "SELECT", .name "", .mark ',', .name "day\n", .mark ',', .word "MAX", .mark '(',
        .name "\"", .mark ')', .word "AS", .name "\"", .word "FROM", .name "sales]; --", .mark '.',
        .name "eu", .word "FULL", .word "OUTER", .word "JOIN", .name "dim", .word "ON",
        .name "a]]", .mark '=', .name "dim", .mark '.', .name "[b", .word "GROUP", .word "BY",
        .name "", .mark ',', .name "day\n"] ∧
      lex (.enclosed '[' ']')
          (Emitter.content
            { outDir := "out", dialect := .tsql
              options := { wrapView := true, terminator := true } }
            ⟨"v.]", hostileStatement⟩) = some (
        .word "CREATE" :: .word "OR" :: .word "ALTER" :: .word "VIEW" :: .name "v.]" ::
          .word "AS" :: (hostileQuery.tokens ++ [.mark ';'])) := by
  have h : Dialect.tsql.render hostileQuery = .ok hostileStatement := by decide +kernel
  have hquoting : (Dialect.tsql, '[', ']') ∈ quotingDialects := by decide
  have hlex := lex_render hquoting h
  refine ⟨h, hlex.1.trans ?_, hlex.2 _ "v.]" rfl⟩
  decide +kernel

/-- In a dialect that quotes names, a query is refused for the same reason as in the generic one,
or else its statement without quotes is the generic one. -/
theorem unquote_render (hd : (d, opening, closing) ∈ quotingDialects) (q : FactQuery) :
    (∀ e, d.render q = .error e ↔ Dialect.generic.render q = .error e) ∧
      ∀ sql, d.render q = .ok sql →
        ∃ plain, Dialect.generic.render q = .ok plain ∧
          unquote (.enclosed opening closing) sql = some plain := by
  rw [render_eq_spell d, render_eq_spell .generic]
  cases q.breach? with
  | some b => simp
  | none =>
    refine ⟨by simp, fun sql hsql => ?_⟩
    cases hsql
    exact ⟨_, rfl, unquote_spell hd q.readable_lexemes⟩

theorem unquote_hostileStatement :
    Dialect.tsql.render hostileQuery = .ok hostileStatement ∧
      ∃ plain, Dialect.generic.render hostileQuery = .ok plain ∧
        unquote (.enclosed '[' ']') hostileStatement = some plain := by
  have h : Dialect.tsql.render hostileQuery = .ok hostileStatement := by decide +kernel
  exact ⟨h, (unquote_render (by decide) hostileQuery).2 hostileStatement h⟩

end Quoting
end FactViews
