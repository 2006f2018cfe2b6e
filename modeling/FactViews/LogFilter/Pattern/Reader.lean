import FactViews.LogFilter.Pattern
import FactViews.Text.Alphanumeric
import FactViews.Text.Basic

/-! # Reading patterns

Alternatives are separated by bars, and each is a sequence of items: characters, escapes, sets in
brackets and groups in parentheses, any of them with signs of repetition after it. In verbose mode
blanks and comments between these do not count. Counts in braces are not read, because the text of
a pattern has no closing brace to end one. -/

namespace FactViews.LogFilter
open Text

/-- Passes blanks and comments. The flag says whether the list begins inside a comment. -/
def passComments : Bool → List Char → List Char
  | _, [] => []
  | true, c :: rest => passComments (c ≠ '\n') rest
  | false, c :: rest =>
    if isBlank c then passComments false rest
    else if c = '#' then passComments true rest
    else c :: rest

/-- What is left of a pattern's text. -/
structure PatternText where
  rest : List Char
  verbose : Bool := false
  /-- The names of groups so far. -/
  names : List String := []

namespace PatternText

/-- Passes what does not count. -/
def pass (t : PatternText) : PatternText :=
  if t.verbose then { t with rest := passComments false t.rest } else t

/-- Passes characters. -/
def drop (t : PatternText) (n : Nat) : PatternText := { t with rest := t.rest.drop n }

/-- Whether the given text comes next. -/
def sees (t : PatternText) (s : String) : Bool := s.toList.isPrefixOf t.rest

/-- Reads hexadecimal digits and adds them to a number. -/
def hexDigits : Nat → Nat → PatternText → Option (Nat × PatternText)
  | 0, n, t => some (n, t)
  | count + 1, n, t =>
    let t := t.pass
    match t.rest with
    | [] => none
    | c :: _ =>
      if c.isDigit then hexDigits count (16 * n + (c.toNat - 0x30)) (t.drop 1)
      else if 'a' ≤ c && c ≤ 'f' then hexDigits count (16 * n + (c.toNat - 0x57)) (t.drop 1)
      else if 'A' ≤ c && c ≤ 'F' then hexDigits count (16 * n + (c.toNat - 0x37)) (t.drop 1)
      else none

end PatternText

/-- What an escape stands for. -/
inductive Escape where
  | literal (c : Char) (byte : Bool)
  | kind (complement : Bool)
  | anchor
  | wordEdge
deriving DecidableEq, Repr

/-- The pattern that an escape is. -/
def Escape.toPattern : Escape → Pattern
  | .literal c byte => .literal c byte
  | .kind complement => .kind complement
  | .anchor => .anchor
  | .wordEdge => .wordEdge

/-- The set of one character. -/
def CharSet.single (c : Char) : CharSet := .range c c

/-- The set that an escape is, if it is one. -/
def Escape.toSet? : Escape → Option CharSet
  | .literal c _ => some (.single c)
  | .kind complement => some (.kind complement)
  | _ => none

/-- An escaped character with so many hexadecimal digits. -/
def hexEscape (count : Nat) (t : PatternText) : Option (Escape × PatternText) :=
  match t.hexDigits count 0 with
  | none => none
  | some (n, t) =>
    if (0xD800 ≤ n && n ≤ 0xDFFF) || 0x10FFFF < n then none
    else some (.literal (Char.ofNat n) (count = 2), t.pass)

/-- The control character that a letter stands for. -/
def controlOf? : Char → Option Char
  | 'a' => some '\x07'
  | 'f' => some '\x0c'
  | 't' => some '\t'
  | 'n' => some '\n'
  | 'r' => some '\r'
  | 'v' => some '\x0b'
  | _ => none

/-- Reads an escape from behind its backslash. Classes by properties are not available, and
neither are references to groups. -/
def escape (t : PatternText) : Option (Escape × PatternText) :=
  match t.rest with
  | [] => none
  | c :: rest =>
    let t := { t with rest }
    if c = 'x' then hexEscape 2 t
    else if c = 'u' then hexEscape 4 t
    else if c = 'U' then hexEscape 8 t
    else if c = 'd' || c = 's' || c = 'w' then some (.kind false, t)
    else if c = 'D' || c = 'S' || c = 'W' then some (.kind true, t)
    else if c = 'A' || c = 'z' then some (.anchor, t)
    else if c = 'b' || c = 'B' || c = '<' || c = '>' then some (.wordEdge, t)
    else if isAscii c && !c.isAlphanum then some (.literal c false, t)
    else (controlOf? c).map fun x => (.literal x false, t)

/-- The names of sets. -/
def setNames : List String :=
  ["alnum", "alpha", "ascii", "blank", "cntrl", "digit", "graph", "lower", "print", "punct",
    "space", "upper", "word", "xdigit"]

/-- Reads a set with a name from behind its bracket: whether it is a complement, and what
follows. -/
def namedSet? (cs : List Char) : Option (Bool × List Char) :=
  match cs with
  | ':' :: rest =>
    let complement := rest.head? = some '^'
    let rest := if complement then rest.drop 1 else rest
    let name := rest.takeWhile (· ≠ ':')
    match rest.drop name.length with
    | ':' :: ']' :: rest =>
      if setNames.contains (String.ofList name) then some (complement, rest) else none
    | _ => none
  | _ => none

/-- Reads one character or escape of a set. -/
def setItem (t : PatternText) : Option (Escape × PatternText) :=
  match t.rest with
  | [] => none
  | '\\' :: rest => escape { t with rest }
  | c :: rest => some (.literal c false, { t with rest })

/-- Reads a part of a set: one item, or a range between two characters. A hyphen makes a range
unless the set ends or another hyphen follows. -/
def setPart (t : PatternText) : Option (CharSet × PatternText) := do
  let (first, t) ← setItem t
  let t := t.pass
  let next := ((t.drop 1).pass).rest.head?
  if t.rest.head? ≠ some '-' || next = some ']' || next = some '-' then
    guard !t.rest.isEmpty
    return (← first.toSet?, t)
  else
    let (last, t) ← setItem (t.drop 1).pass
    match first, last with
    | .literal a _, .literal b _ => if a ≤ b then some (.range a b, t) else none
    | _, _ => none

/-- The hyphens at the beginning of a set. -/
def leadingHyphens : Nat → PatternText → List CharSet × PatternText
  | 0, t => ([], t)
  | fuel + 1, t =>
    if t.rest.head? = some '-' then
      let r := leadingHyphens fuel (t.drop 1).pass
      (.single '-' :: r.1, r.2)
    else ([], t)

/-- Reads the beginning of a set from behind its bracket: whether it is a complement, and the
parts that are taken as they are because they stand first. -/
def openSet (t : PatternText) : Bool × List CharSet × PatternText :=
  let t := t.pass
  let complement := t.rest.head? = some '^'
  let t := if complement then (t.drop 1).pass else t
  match leadingHyphens t.rest.length t with
  | ([], t) =>
    if t.rest.head? = some ']' then (complement, [.single ']'], (t.drop 1).pass)
    else (complement, [], t)
  | (hyphens, t) => (complement, hyphens, t)

/-- The union of parts. -/
def unionOf : List CharSet → CharSet
  | [] => .nothing
  | [s] => s
  | parts => .union parts

/-- The set that an operation on what came before completes. -/
def withLeft (left : Option CharSet) (right : CharSet) : CharSet :=
  match left with
  | none => right
  | some left => .operation left right

/-- Reads a set up to its closing bracket, given the left side of an operation and the parts so
far, the last first. -/
def setBody : Nat → Option CharSet → List CharSet → PatternText → Option (CharSet × PatternText)
  | 0, _, _, _ => none
  | fuel + 1, left, parts, t =>
    let t := t.pass
    match t.rest with
    | [] => none
    | ']' :: rest => some (withLeft left (unionOf parts.reverse), { t with rest })
    | '[' :: rest =>
      match namedSet? rest with
      | some (complement, rest) => setBody fuel left (.named complement :: parts) { t with rest }
      | none =>
        let (complement, first, t) := openSet { t with rest }
        match setBody fuel none first.reverse t with
        | none => none
        | some (body, t) => setBody fuel left (.nested complement body :: parts) t
    | _ :: _ =>
      if t.sees "&&" || t.sees "--" || t.sees "~~" then
        setBody fuel (some (withLeft left (unionOf parts.reverse))) [] (t.drop 2)
      else
        match setPart t with
        | none => none
        | some (part, t) => setBody fuel left (part :: parts) t

/-- The letters of modes. -/
def modeLetters : List Char := ['i', 'm', 's', 'U', 'u', 'R', 'x']

/-- Reads switches up to the colon or parenthesis after them. Every letter occurs at most once,
and letters after a hyphen are switched off. -/
def switches (negative : Bool) : List Char → Option (Switches × List Char)
  | [] => none
  | c :: rest =>
    if c = ':' || c = ')' then some ([], c :: rest)
    else if c = '-' then
      if negative || rest.head? = some ':' || rest.head? = some ')' then none
      else switches true rest
    else if modeLetters.contains c then
      match switches negative rest with
      | none => none
      | some (s, rest) => if s.any (·.1 = c) then none else some ((c, !negative) :: s, rest)
    else none

/-- Whether a character may occur in the name of a group, at its beginning or later. -/
def isGroupNameChar (first : Bool) (c : Char) : Bool :=
  if first then c = '_' || isAlphabetic c
  else c = '_' || c = '.' || c = '[' || c = ']' || isAlphanumeric c

/-- Reads the name of a group and the sign after it. Names are distinct. -/
def groupName (t : PatternText) : Option PatternText :=
  let name := t.rest.takeWhile (· ≠ '>')
  match name, t.rest.drop name.length with
  | c :: more, '>' :: rest =>
    let name := String.ofList (c :: more)
    if isGroupNameChar true c && more.all (isGroupNameChar false) && !t.names.contains name then
      some { t with rest, names := name :: t.names }
    else none
  | _, _ => none

/-- How a group begins. -/
inductive GroupStart where
  /-- Switches without a group. -/
  | switchOnly (s : Switches)
  /-- A group whose content follows. -/
  | content (s : Switches)
deriving DecidableEq, Repr

/-- Reads the beginning of a group from behind its parenthesis. Conditions on the surroundings are
not supported. -/
def openGroup (t : PatternText) : Option (GroupStart × PatternText) :=
  let t := t.pass
  if t.sees "?!" || t.sees "?=" || t.sees "?<!" || t.sees "?<=" then none
  else if t.sees "?P<" then (groupName (t.drop 3)).map fun t => (.content [], t)
  else if t.sees "?<" then (groupName (t.drop 2)).map fun t => (.content [], t)
  else if t.sees "?" then
    match switches false (t.rest.drop 1) with
    | none => none
    | some (s, rest) =>
      let t := { t with rest := rest.drop 1 }
      if rest.head? = some ':' then some (.content s, t)
      else if s.isEmpty then none
      else some (.switchOnly s, t)
  else some (.content [], t)

/-- Whether a sign of repetition may follow a pattern. -/
def Pattern.isRepeatable : Pattern → Bool
  | .empty => false
  | .switch _ => false
  | _ => true

/-- The sequence of items, the last of which is given first. -/
def sequenceOf : List Pattern → Pattern
  | [] => .empty
  | [p] => p
  | reversed => .sequence reversed.reverse

/-- One of several alternatives. -/
def alternativesOf : List Pattern → Pattern
  | [] => .empty
  | [p] => p
  | ps => .alternatives ps

mutual

/-- Reads items after the given ones, the last of which is given first, up to a bar, a closing
parenthesis or the end. -/
def items : Nat → List Pattern → PatternText → Option (Pattern × PatternText)
  | 0, _, _ => none
  | fuel + 1, done, t =>
    let t := t.pass
    match t.rest with
    | [] => some (sequenceOf done, t)
    | c :: rest =>
      let after := { t with rest }
      if c = '|' || c = ')' then some (sequenceOf done, t)
      else if c = '(' then
        match openGroup after with
        | none => none
        | some (.switchOnly s, t) =>
          items fuel (.switch s :: done) { t with verbose := s.setting 'x' t.verbose }
        | some (.content s, t) =>
          match branches fuel { t with verbose := s.setting 'x' t.verbose } with
          | none => none
          | some (ps, inner) =>
            match inner.rest with
            | ')' :: rest =>
              items fuel (.group s (alternativesOf ps) :: done)
                { inner with rest, verbose := t.verbose }
            | _ => none
      else if c = '[' then
        let (complement, first, t) := openSet after
        match setBody fuel none first.reverse t with
        | none => none
        | some (body, t) => items fuel (.set complement body :: done) t
      else if c = '?' || c = '*' || c = '+' then
        match done with
        | [] => none
        | p :: before =>
          let t := if rest.head? = some '?' then after.drop 1 else after
          if p.isRepeatable then items fuel (.repeated p :: before) t else none
      else if c = '\x7b' then none
      else if c = '\\' then
        match escape after with
        | none => none
        | some (e, t) => items fuel (e.toPattern :: done) t
      else if c = '.' then items fuel (.any :: done) after
      else if c = '^' || c = '$' then items fuel (.anchor :: done) after
      else items fuel (.literal c false :: done) after

/-- Reads alternatives up to a closing parenthesis or the end. -/
def branches : Nat → PatternText → Option (List Pattern × PatternText)
  | 0, _ => none
  | fuel + 1, t =>
    match items fuel [] t with
    | none => none
    | some (p, t) =>
      match t.rest with
      | '|' :: rest => (branches fuel { t with rest }).map fun r => (p :: r.1, r.2)
      | _ => some ([p], t)

end

/-- Reads a pattern. -/
def Pattern.read? (cs : List Char) : Option Pattern :=
  match branches (2 * cs.length + 2) { rest := cs } with
  | some (ps, t) => if t.rest.isEmpty then some (alternativesOf ps) else none
  | none => none

/-- Whether a text is a pattern that can be used. -/
def isPattern (cs : List Char) : Bool := (Pattern.read? cs).any Pattern.isUsable

end FactViews.LogFilter
