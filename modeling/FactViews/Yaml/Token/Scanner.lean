import FactViews.Yaml.Token.Scalar
import FactViews.Yaml.Token.Tag

/-! # From text to tokens

The scanner reads one token after another. Two things are decided late. A text becomes a key only
when its colon is met, so the place of every possible key is remembered and the key token is put
there afterwards; a possible key ends with its line and after 1024 bytes. Changes of
indentation begin and end block collections, for which tokens are added as well. -/

namespace FactViews.Yaml

/-- A place where a key may have begun. -/
structure PossibleKey where
  /-- Whether the text there must be a key, because it begins a line of a block mapping. -/
  required : Bool
  /-- The number of tokens before it. -/
  tokens : Nat
  index : Nat
  line : Nat
  column : Nat
deriving Repr

/-- The greatest number of bytes before the colon of a key. -/
def maxKeyLength : Nat := 1024

/-- What the scanner knows between two tokens. -/
structure Scanner where
  cursor : Cursor
  tokens : Array Token := #[]
  /-- The column of the innermost block collection, or -1. -/
  indent : Int := -1
  /-- The columns of the enclosing block collections, innermost first. -/
  outerIndents : List Int := []
  /-- Whether a key may begin here. -/
  keyAllowed : Bool := true
  /-- The possible key of the innermost flow collection, or of the block context. -/
  possible : Option PossibleKey := none
  /-- The possible keys outside of it, one for every open flow collection, innermost first. -/
  outerPossible : List (Option PossibleKey) := []
  /-- A number that exceeds the length of the text. -/
  fuel : Nat

namespace Scanner

/-- Whether a flow collection is open. -/
def inFlow (s : Scanner) : Bool := !s.outerPossible.isEmpty

/-- Adds a token. -/
def emit (s : Scanner) (t : Token) : Scanner := { s with tokens := s.tokens.push t }

/-- Moves the cursor. -/
def moveTo (s : Scanner) (c : Cursor) : Scanner := { s with cursor := c }

/-- Adds a token and passes the characters it consists of. -/
def emitMark (s : Scanner) (t : Token) (width : Nat := 1) : Scanner :=
  (s.emit t).moveTo (s.cursor.skip width)

/-- Sets whether a key may begin. -/
def allowKey (s : Scanner) (allowed : Bool) : Scanner := { s with keyAllowed := allowed }

/-- Passes blanks, comments and line breaks. Tabs count as blanks only where no key can begin, and
a byte order mark only at the beginning of a line. -/
def skipGaps : Nat → Scanner → Except Fault Scanner
  | 0, _ => .error .stepLimit
  | fuel + 1, s =>
    let tabs := s.inFlow || !s.keyAllowed
    let c := s.cursor
    let c := if c.column = 0 && c.next (·.toNat = 0xFEFF) then c.skip else c
    let c := c.skipWhile fun x => x = ' ' || (tabs && x = '\t')
    let c := if c.sees '#' then c.skipToLineEnd else c
    if c.next isBreak then
      skipGaps fuel ((s.moveTo c.skipBreak).allowKey (!s.inFlow || s.keyAllowed))
    else .ok (s.moveTo c)

/-- Whether a possible key is out of reach from the cursor. -/
def isStale (s : Scanner) (k : PossibleKey) : Bool :=
  k.line < s.cursor.line || k.index + maxKeyLength < s.cursor.index

/-- Forgets the innermost possible key if it is out of reach; a required one is a fault. The keys
outside of it get their turn when the collections in front of them end. -/
def freshenKey (s : Scanner) : Except Fault Scanner :=
  match s.possible with
  | none => .ok s
  | some k =>
    if s.isStale k then if k.required then .error .missingColon else .ok { s with possible := none }
    else .ok s

/-- Gives up the innermost possible key. -/
def dropKey (s : Scanner) : Except Fault Scanner :=
  if s.possible.any (·.required) then .error .missingColon
  else .ok { s with possible := none }

/-- Remembers that a key may begin here. -/
def saveKey (s : Scanner) : Except Fault Scanner :=
  if s.keyAllowed then
    match s.dropKey with
    | .error e => .error e
    | .ok s =>
      let c := s.cursor
      let required := !s.inFlow && s.indent == (c.column : Int)
      .ok { s with possible := some ⟨required, s.tokens.size, c.index, c.line, c.column⟩ }
  else .ok s

/-- Begins a block collection at a column if it is further in; its token goes to a place among
the tokens. -/
def indentTo (s : Scanner) (column : Nat) (place : Nat) (t : Token) : Scanner :=
  if !s.inFlow && s.indent < (column : Int) then
    { s with
      tokens := s.tokens.insertIdxIfInBounds place t
      indent := column
      outerIndents := s.indent :: s.outerIndents }
  else s

/-- Closes the block collections whose columns, innermost first, are further in than a column. -/
def closeFrom (column : Int) (tokens : Array Token) (indent : Int) :
    List Int → Array Token × Int × List Int
  | [] => (tokens, indent, [])
  | outer :: rest =>
    if column < indent then closeFrom column (tokens.push .blockEnd) outer rest
    else (tokens, indent, outer :: rest)

/-- Ends the block collections that are further in than a column. -/
def outdentTo (s : Scanner) (column : Int) : Scanner :=
  if s.inFlow then s
  else
    let (tokens, indent, outerIndents) := closeFrom column s.tokens s.indent s.outerIndents
    { s with tokens, indent, outerIndents }

/-- Ends all block collections, before something that belongs to no collection. -/
def leaveBlocks (s : Scanner) : Except Fault Scanner :=
  match (s.outdentTo (-1)).dropKey with
  | .error e => .error e
  | .ok s => .ok (s.allowKey false)

/-- Begins a flow collection. -/
def openFlow (s : Scanner) (t : Token) : Except Fault Scanner :=
  match s.saveKey with
  | .error e => .error e
  | .ok s =>
    let s := { s with possible := none, outerPossible := s.possible :: s.outerPossible }
    .ok ((s.allowKey true).emitMark t)

/-- Ends a flow collection. -/
def closeFlow (s : Scanner) (t : Token) : Except Fault Scanner :=
  match s.dropKey with
  | .error e => .error e
  | .ok s =>
    let s :=
      match s.outerPossible with
      | [] => s
      | k :: ks => { s with possible := k, outerPossible := ks }
    .ok ((s.allowKey false).emitMark t)

/-- Reads the comma of a flow collection. -/
def flowEntry (s : Scanner) : Except Fault Scanner :=
  match s.dropKey with
  | .error e => .error e
  | .ok s => .ok ((s.allowKey true).emitMark .flowEntry)

/-- Reads the mark of a list entry. -/
def blockEntry (s : Scanner) : Except Fault Scanner :=
  if !s.inFlow && !s.keyAllowed then .error .misplacedEntry
  else
    match (s.indentTo s.cursor.column s.tokens.size .blockSequenceStart).dropKey with
    | .error e => .error e
    | .ok s => .ok ((s.allowKey true).emitMark .blockEntry)

/-- Reads the mark of an explicit key. -/
def explicitKey (s : Scanner) : Except Fault Scanner :=
  if !s.inFlow && !s.keyAllowed then .error .misplacedKey
  else
    match (s.indentTo s.cursor.column s.tokens.size .blockMappingStart).dropKey with
    | .error e => .error e
    | .ok s => .ok ((s.allowKey !s.inFlow).emitMark .key)

/-- Reads the colon before a value. If a key was possible, its token is added now. -/
def mappingValue (s : Scanner) : Except Fault Scanner :=
  match s.possible with
  | some k =>
    let s := { s with tokens := s.tokens.insertIdxIfInBounds k.tokens .key, possible := none }
    let s := s.indentTo k.column k.tokens .blockMappingStart
    .ok ((s.allowKey false).emitMark .value)
  | none =>
    if !s.inFlow && !s.keyAllowed then .error .misplacedValue
    else
      let s := s.indentTo s.cursor.column s.tokens.size .blockMappingStart
      .ok ((s.allowKey !s.inFlow).emitMark .value)

/-- Reads a token that may begin a key. -/
def keyable (s : Scanner) (read : Cursor → Except Fault (Token × Cursor)) : Except Fault Scanner :=
  match s.saveKey with
  | .error e => .error e
  | .ok s =>
    match read s.cursor with
    | .error e => .error e
    | .ok (t, c) => .ok (((s.allowKey false).emit t).moveTo c)

/-- Reads an anchor or an alias. -/
def anchorLike (s : Scanner) (token : String → Token) : Except Fault Scanner :=
  s.keyable fun c => (scanAnchorName c.skip).map fun r => (token r.1, r.2)

/-- Reads a quoted text. -/
def quoted (s : Scanner) (single : Bool) : Except Fault Scanner :=
  s.keyable fun c => (scanQuoted single s.fuel "" c.skip).map fun r => (.scalar r.1 false, r.2)

/-- Reads a block text. -/
def block (s : Scanner) (literal : Bool) : Except Fault Scanner :=
  match s.dropKey with
  | .error e => .error e
  | .ok s =>
    match scanBlock literal s.indent s.fuel s.cursor.skip with
    | .error e => .error e
    | .ok (text, c) => .ok (((s.allowKey true).emit (.scalar text false)).moveTo c)

/-- Reads a plain text. A key may begin after one that ended with its line. -/
def plain (s : Scanner) : Except Fault Scanner :=
  match s.saveKey with
  | .error e => .error e
  | .ok s =>
    match scanPlain s.inFlow (s.indent + 1).toNat s.fuel "" {} s.cursor with
    | .error e => .error e
    | .ok p => .ok (((s.allowKey p.brokenLine).emit (.scalar p.text true)).moveTo p.cursor)

/-- Reads a directive. -/
def directive (s : Scanner) : Except Fault Scanner :=
  match s.leaveBlocks with
  | .error e => .error e
  | .ok s =>
    match scanDirective s.fuel s.cursor.skip with
    | .error e => .error e
    | .ok (t, c) => .ok ((s.emit t).moveTo c)

/-- Reads a document marker. -/
def documentMarker (s : Scanner) (t : Token) : Except Fault Scanner :=
  match s.leaveBlocks with
  | .error e => .error e
  | .ok s => .ok (s.emitMark t 3)

/-- Whether a plain text begins at the cursor. -/
def startsPlain (s : Scanner) : Bool :=
  let c := s.cursor
  c.next fun x =>
    if x = '-' then !(c.ahead? 1).any isSpace
    else if x = '?' || x = ':' then !s.inFlow && !c.gapAt 1
    else !isGap x && !isReserved x

/-- Reads the token at the cursor, which is at no gap and not at the end. -/
def token (s : Scanner) : Except Fault Scanner :=
  let c := s.cursor
  if c.column = 0 && c.sees '%' then s.directive
  else if c.marker '-' then s.documentMarker .documentStart
  else if c.marker '.' then s.documentMarker .documentEnd
  else if c.sees '[' then s.openFlow .flowSequenceStart
  else if c.sees '\x7b' then s.openFlow .flowMappingStart
  else if c.sees ']' then s.closeFlow .flowSequenceEnd
  else if c.sees '\x7d' then s.closeFlow .flowMappingEnd
  else if c.sees ',' then s.flowEntry
  else if c.sees '-' && c.gapAt 1 then s.blockEntry
  else if c.sees '?' && (s.inFlow || c.gapAt 1) then s.explicitKey
  else if c.sees ':' && (s.inFlow || c.gapAt 1) then s.mappingValue
  else if c.sees '*' then s.anchorLike .reference
  else if c.sees '&' then s.anchorLike .anchor
  else if c.sees '!' then s.keyable (scanTag s.inFlow s.fuel)
  else if c.sees '|' && !s.inFlow then s.block true
  else if c.sees '>' && !s.inFlow then s.block false
  else if c.sees '\x27' then s.quoted true
  else if c.sees '\x22' then s.quoted false
  else if s.startsPlain then s.plain
  else .error .strayCharacter

/-- Moves to the next token: passes gaps, forgets a key out of reach and ends the block
collections that the indentation leaves. -/
def approach (s : Scanner) : Except Fault Scanner :=
  match skipGaps s.fuel s with
  | .error e => .error e
  | .ok s =>
    match s.freshenKey with
    | .error e => .error e
    | .ok s => .ok (s.outdentTo s.cursor.column)

/-- Reads tokens up to the end of the text. -/
def run : Nat → Scanner → Except Fault (Array Token)
  | 0, _ => .error .stepLimit
  | fuel + 1, s =>
    match s.approach with
    | .error e => .error e
    | .ok s =>
      if s.cursor.atEnd then (s.leaveBlocks).map Scanner.tokens
      else
        match s.token with
        | .error e => .error e
        | .ok s => run fuel s

end Scanner

/-- The tokens of a text. -/
def tokens (text : String) : Except Fault (List Token) :=
  let cs := text.toList
  if cs.all isAllowed then
    let fuel := cs.length + 2
    (Scanner.run fuel { cursor := { rest := cs }, fuel }).map Array.toList
  else .error .controlCharacter

end FactViews.Yaml
