import FactViews.Yaml.Cursor
import FactViews.Yaml.Fault

/-! # Texts in YAML

Reading plain, quoted and block texts. Each reader starts at the first character of the text and
returns the text and the place behind it; its steps are limited by a number that exceeds the
length of the text. A single line break between two lines of a plain or
quoted text becomes a blank, and of several breaks the first is dropped. -/

namespace FactViews.Yaml

/-- White space between two pieces of a text: blanks of one line, or line breaks. -/
structure Gap where
  /-- Blanks before any line break. -/
  blanks : String := ""
  /-- The first line break. -/
  first : Option String := none
  /-- The line breaks after the first. -/
  more : String := ""

namespace Gap

/-- A gap that holds no text, broken by an escaped line break. -/
def escaped : Gap := { first := some "" }

/-- The text that a gap stands for. -/
def text (g : Gap) : String :=
  match g.first with
  | none => g.blanks
  | some "\n" => if g.more = "" then " " else g.more
  | some b => b ++ g.more

/-- Passes at most the given number of blanks and line breaks. In a plain text a tab in the
indentation of a later line is refused: `indent` is the least column where it may stand. -/
def scanUpTo (indent : Option Nat) : Nat → Gap → Cursor → Except Fault (Gap × Cursor)
  | 0, g, c => .ok (g, c)
  | fuel + 1, g, c =>
    match c.rest with
    | [] => .ok (g, c)
    | x :: _ =>
      if isSpace x then
        if g.first.isNone then scanUpTo indent fuel { g with blanks := g.blanks.push x } c.skip
        else if x = '\t' && indent.any (c.column < ·) then .error .tabIndentation
        else scanUpTo indent fuel g c.skip
      else if isBreak x then
        let (b, c') := c.takeBreak
        if g.first.isNone then scanUpTo indent fuel { g with first := some b } c'
        else scanUpTo indent fuel { g with more := g.more ++ b } c'
      else .ok (g, c)

/-- Passes all blanks and line breaks. -/
def scan (indent : Option Nat) (g : Gap) (c : Cursor) : Except Fault (Gap × Cursor) :=
  scanUpTo indent (c.rest.takeWhile isGap).length g c

end Gap

/-- A text without quotes, and whether it ended after a line break. -/
structure PlainText where
  text : String
  brokenLine : Bool
  cursor : Cursor

/-- Whether a plain text ends before the next character, which is no gap. -/
def endsPlain (inFlow : Bool) (c : Cursor) : Bool :=
  (c.sees ':' && c.gapAt 1) || (inFlow && c.next isFlowDelimiter)

/-- Whether a colon in a flow collection is followed by a character that it cannot stand before. -/
def badFlowColon (inFlow : Bool) (c : Cursor) : Bool :=
  inFlow && c.sees ':' && (c.ahead? 1).any fun x => isFlowDelimiter x || x = '?'

/-- Reads a plain text. `gap` is the white space since the last piece; it belongs to the text
only if another piece follows. -/
def scanPlain (inFlow : Bool) (indent : Nat) :
    Nat → String → Gap → Cursor → Except Fault PlainText
  | 0, _, _, _ => .error .stepLimit
  | fuel + 1, text, gap, c =>
    let done : PlainText := ⟨text, gap.first.isSome, c⟩
    match c.rest with
    | [] => .ok done
    | x :: _ =>
      if isGap x then
        match Gap.scan (some indent) gap c with
        | .error e => .error e
        | .ok (gap', c') =>
          if (!inFlow && c'.column < indent) || c'.atMarker || c'.sees '#' then
            .ok ⟨text, gap'.first.isSome, c'⟩
          else scanPlain inFlow indent fuel text gap' c'
      else if badFlowColon inFlow c then .error .misplacedColon
      else if endsPlain inFlow c then .ok done
      else scanPlain inFlow indent fuel ((text ++ gap.text).push x) {} c.skip

/-- The value of a hexadecimal digit. -/
def hexValue? (c : Char) : Option Nat :=
  if c.isDigit then some (c.toNat - 0x30)
  else if 'a' ≤ c && c ≤ 'f' then some (c.toNat - 0x61 + 10)
  else if 'A' ≤ c && c ≤ 'F' then some (c.toNat - 0x41 + 10)
  else none

/-- The number that hexadecimal digits stand for. -/
def hexNumber? : List Char → Option Nat := fun cs =>
  cs.foldl (fun acc c => match acc, hexValue? c with
    | some n, some d => some (16 * n + d)
    | _, _ => none) (some 0)

/-- The character that a letter stands for after a backslash. -/
def escapedChar? : Char → Option Char
  | '0' => some '\x00'
  | 'a' => some '\x07'
  | 'b' => some '\x08'
  | 't' => some '\t'
  | '\t' => some '\t'
  | 'n' => some '\n'
  | 'v' => some '\x0b'
  | 'f' => some '\x0c'
  | 'r' => some '\r'
  | 'e' => some '\x1b'
  | ' ' => some ' '
  | '\x22' => some '\x22'
  | '/' => some '/'
  | '\\' => some '\\'
  | 'N' => some (Char.ofNat 0x85)
  | '_' => some (Char.ofNat 0xA0)
  | 'L' => some (Char.ofNat 0x2028)
  | 'P' => some (Char.ofNat 0x2029)
  | _ => none

/-- The number of hexadecimal digits that follow a letter after a backslash. -/
def escapeDigits? : Char → Option Nat
  | 'x' => some 2
  | 'u' => some 4
  | 'U' => some 8
  | _ => none

/-- Reads an escape; the cursor is at the character after the backslash. -/
def scanEscape (c : Cursor) : Except Fault (Char × Cursor) :=
  match c.rest with
  | [] => .error .badEscape
  | x :: rest =>
    match escapedChar? x with
    | some y => .ok (y, c.skip)
    | none =>
      match escapeDigits? x with
      | none => .error .badEscape
      | some n =>
        match hexNumber? (rest.take n) with
        | none => .error .badEscape
        | some v =>
          if rest.length < n || (0xD800 ≤ v && v ≤ 0xDFFF) || 0x10FFFF < v then .error .badEscape
          else .ok (Char.ofNat v, c.skip (n + 1))

/-- Reads a quoted text from behind its opening mark. In single quotes a doubled mark stands for
one; in double quotes there are escapes, and a backslash at the end of a line joins it with the
next. -/
def scanQuoted (single : Bool) : Nat → String → Cursor → Except Fault (String × Cursor)
  | 0, _, _ => .error .stepLimit
  | fuel + 1, text, c =>
    if c.atMarker then .error .documentMarker
    else
      match c.rest with
      | [] => .error .unclosedQuote
      | x :: rest =>
        if isGap x then
          match Gap.scan none {} c with
          | .error e => .error e
          | .ok (gap, c') => scanQuoted single fuel (text ++ gap.text) c'
        else if single then
          if x = '\x27' then
            if rest.head? = some '\x27' then scanQuoted single fuel (text.push x) (c.skip 2)
            else .ok (text, c.skip)
          else scanQuoted single fuel (text.push x) c.skip
        else if x = '\x22' then .ok (text, c.skip)
        else if x = '\\' then
          if rest.head?.any isBreak then
            match Gap.scan none .escaped c.skip.skipBreak with
            | .error e => .error e
            | .ok (gap, c') => scanQuoted single fuel (text ++ gap.text) c'
          else
            match scanEscape c.skip with
            | .error e => .error e
            | .ok (y, c') => scanQuoted single fuel (text.push y) c'
        else scanQuoted single fuel (text.push x) c.skip

/-- What happens to the line breaks at the end of a block text. -/
inductive Chomping where
  /-- All are dropped. -/
  | strip
  /-- The first is kept. -/
  | clip
  /-- All are kept. -/
  | keep
deriving DecidableEq, Repr

/-- The first line of a block text: chomping and the explicit indentation, zero if there is none. -/
structure BlockHeader where
  chomping : Chomping := .clip
  indent : Nat := 0

/-- The chomping mark at the cursor. -/
def chompingMark (c : Cursor) : Option Chomping :=
  if c.sees '+' then some .keep else if c.sees '-' then some .strip else none

/-- The indentation digit at the cursor; zero is refused. -/
def indentMark (c : Cursor) : Except Fault (Option Nat) :=
  match c.rest.head? with
  | some x =>
    if x.isDigit then
      if x = '0' then .error .badBlockHeader else .ok (some (x.toNat - 0x30))
    else .ok none
  | none => .ok none

/-- Reads the marks of a block text, in either order. -/
def scanBlockMarks (c : Cursor) : Except Fault (BlockHeader × Cursor) :=
  match chompingMark c with
  | some chomping =>
    match indentMark c.skip with
    | .error e => .error e
    | .ok (some indent) => .ok ({ chomping, indent }, c.skip 2)
    | .ok none => .ok ({ chomping }, c.skip)
  | none =>
    match indentMark c with
    | .error e => .error e
    | .ok none => .ok ({}, c)
    | .ok (some indent) =>
      match chompingMark c.skip with
      | some chomping => .ok ({ chomping, indent }, c.skip 2)
      | none => .ok ({ indent }, c.skip)

/-- Passes blanks, a comment and the end of the line; anything else is refused. -/
def scanLineRest (c : Cursor) : Option Cursor :=
  let c := c.skipWhile isSpace
  let c := if c.sees '#' then c.skipToLineEnd else c
  if c.atLineEnd then some c.skipBreak else none

/-- Passes empty lines and indentation up to a line with text. With `indent` zero the indentation
is open, and `widest` is the widest one met. -/
def scanEmptyLines (indent : Nat) :
    Nat → Nat → String → Cursor → Except Fault (String × Nat × Cursor)
  | 0, _, _, _ => .error .stepLimit
  | fuel + 1, widest, breaks, c =>
    let missing := if indent = 0 then c.rest.length else indent - c.column
    let c := c.skip ((c.rest.take missing).takeWhile (· = ' ')).length
    let widest := max widest c.column
    if (indent = 0 || c.column < indent) && c.sees '\t' then .error .tabIndentation
    else if c.next isBreak then
      let (b, c') := c.takeBreak
      scanEmptyLines indent fuel widest (breaks ++ b) c'
    else .ok (breaks, widest, c)

/-- The lines of a block text read so far. -/
structure BlockText where
  text : String := ""
  /-- The line break after the last line with text. -/
  lastBreak : String := ""
  /-- The line breaks of the empty lines after it. -/
  emptyLines : String := ""
  /-- Whether the last line with text began with a blank. -/
  blankStart : Bool := false

/-- The text between the last line and a new one. Folding joins two lines with a blank unless one
of them begins with a blank or empty lines stand between them. -/
def BlockText.seam (t : BlockText) (literal blankNext : Bool) : String :=
  if !literal && t.lastBreak = "\n" && !t.blankStart && !blankNext then
    if t.emptyLines = "" then " " else t.emptyLines
  else t.lastBreak ++ t.emptyLines

/-- Reads the lines of a block text that are indented as the first. -/
def scanBlockLines (literal : Bool) (indent : Nat) :
    Nat → BlockText → Cursor → Except Fault (BlockText × Cursor)
  | 0, _, _ => .error .stepLimit
  | fuel + 1, t, c =>
    if c.column = indent && !c.atEnd then
      let blank := c.next isSpace
      let line := c.rest.takeWhile (!isBreak ·)
      let text := t.text ++ t.seam literal blank ++ String.ofList line
      let (lastBreak, c') := (c.skip line.length).takeBreak
      match scanEmptyLines indent ((c'.rest.takeWhile isGap).length + 1) 0 "" c' with
      | .error e => .error e
      | .ok (emptyLines, _, c'') =>
        scanBlockLines literal indent fuel ⟨text, lastBreak, emptyLines, blank⟩ c''
    else .ok (t, c)

/-- Reads a block text from behind its `|` or `>`. `parent` is the indentation of the collection
that the text stands in, or less than zero. -/
def scanBlock (literal : Bool) (parent : Int) (fuel : Nat) (c : Cursor) :
    Except Fault (String × Cursor) :=
  match scanBlockMarks c with
  | .error e => .error e
  | .ok (header, c) =>
    match scanLineRest c with
    | none => .error .badBlockHeader
    | some c =>
      let explicit := if header.indent = 0 then 0 else parent.toNat + header.indent
      match scanEmptyLines explicit ((c.rest.takeWhile isGap).length + 1) 0 "" c with
      | .error e => .error e
      | .ok (emptyLines, widest, c) =>
        let indent := if explicit = 0 then max (max widest (parent + 1).toNat) 1 else explicit
        match scanBlockLines literal indent fuel { emptyLines } c with
        | .error e => .error e
        | .ok (t, c) =>
          match header.chomping with
          | .strip => .ok (t.text, c)
          | .clip => .ok (t.text ++ t.lastBreak, c)
          | .keep => .ok (t.text ++ t.lastBreak ++ t.emptyLines, c)

end FactViews.Yaml
