import FactViews.Text.Basic
import FactViews.Yaml.Cursor
import FactViews.Yaml.Fault
import FactViews.Yaml.Token
import FactViews.Yaml.Token.Scalar

/-! # Anchors, tags and directives

Readers for the tokens that begin with `&`, `*`, `!` and `%`. Escaped octets in a tag are kept as
characters below U+0100. An octet of zero ends the text of a tag, although more may be written. -/

namespace FactViews.Yaml

/-- Reads the name of an anchor or alias from behind its mark. -/
def scanAnchorName (c : Cursor) : Except Fault (String × Cursor) :=
  let name := c.rest.takeWhile isWord
  let c := c.skip name.length
  let closed := c.rest.head?.all fun x =>
    isGap x || x = '?' || x = ':' || x = ',' || x = ']' || x = '\x7d' || x = '%' || x = '@' ||
      x = '\x60'
  if name.isEmpty || !closed then .error .badAnchor else .ok (String.ofList name, c)

/-- Characters of a tag; a verbatim tag may hold three more. -/
def isTagChar (verbatim : Bool) (c : Char) : Bool :=
  isWord c || c = ';' || c = '/' || c = '?' || c = ':' || c = '@' || c = '&' || c = '=' ||
  c = '+' || c = '$' || c = '.' || c = '%' || c = '!' || c = '~' || c = '*' || c = '\x27' ||
  c = '(' || c = ')' || (verbatim && (c = ',' || c = '[' || c = ']'))

/-- Reads one escaped octet. -/
def scanOctet (c : Cursor) : Except Fault (Nat × Cursor) :=
  match c.rest with
  | '%' :: h :: l :: _ =>
    match hexNumber? [h, l] with
    | some n => .ok (n, c.skip 3)
    | none => .error .badTag
  | _ => .error .badTag

/-- Reads further octets of an escaped character. -/
def scanTail : Nat → Cursor → Except Fault (List Char × Cursor)
  | 0, c => .ok ([], c)
  | n + 1, c =>
    match scanOctet c with
    | .error e => .error e
    | .ok (o, c) =>
      if o / 64 = 2 then
        match scanTail n c with
        | .error e => .error e
        | .ok (os, c) => .ok (Char.ofNat o :: os, c)
      else .error .badTag

/-- Reads the octets of one escaped character. -/
def scanEscapedOctets (c : Cursor) : Except Fault (List Char × Cursor) :=
  match scanOctet c with
  | .error e => .error e
  | .ok (o, c) =>
    let tail? : Option Nat :=
      if o < 0x80 then some 0
      else if o / 32 = 6 then some 1
      else if o / 16 = 14 then some 2
      else if o / 8 = 30 then some 3
      else none
    match tail? with
    | none => .error .badTag
    | some n =>
      match scanTail n c with
      | .error e => .error e
      | .ok (os, c) => .ok (Char.ofNat o :: os, c)

/-- Reads the characters of a tag. -/
def scanTagChars (verbatim : Bool) : Nat → Cursor → Except Fault (List Char × Cursor)
  | 0, _ => .error .stepLimit
  | fuel + 1, c =>
    match c.rest with
    | [] => .ok ([], c)
    | x :: _ =>
      if isTagChar verbatim x then
        let piece := if x = '%' then scanEscapedOctets c else .ok ([x], c.skip)
        match piece with
        | .error e => .error e
        | .ok (xs, c) =>
          match scanTagChars verbatim fuel c with
          | .error e => .error e
          | .ok (ys, c) => .ok (xs ++ ys, c)
      else .ok ([], c)

/-- The text of a tag, up to an octet of zero. -/
def tagText (cs : List Char) : String := String.ofList (cs.takeWhile (· ≠ '\x00'))

/-- Reads the text of a tag; at least one character must be written. -/
def scanTagText (verbatim : Bool) (fuel : Nat) (c : Cursor) : Except Fault (String × Cursor) :=
  match scanTagChars verbatim fuel c with
  | .error e => .error e
  | .ok (xs, c) => if xs.isEmpty then .error .badTag else .ok (tagText xs, c)

/-- Reads a handle: a `!`, a word and a second `!`. The second one may be missing. -/
def scanHandle (c : Cursor) : Except Fault (String × Cursor) :=
  if c.sees '!' then
    let word := c.skip.rest.takeWhile isWord
    let c := c.skip (word.length + 1)
    if c.sees '!' then .ok (String.ofList ('!' :: word ++ ['!']), c.skip)
    else .ok (String.ofList ('!' :: word), c)
  else .error .badTag

/-- Reads the two parts of a tag at its first `!`. -/
def scanTagParts (fuel : Nat) (c : Cursor) : Except Fault (String × String × Cursor) :=
  if c.ahead? 1 = some '<' then
    match scanTagText true fuel (c.skip 2) with
    | .error e => .error e
    | .ok (text, c) => if c.sees '>' then .ok ("", text, c.skip) else .error .badTag
  else
    match scanHandle c with
    | .error e => .error e
    | .ok (handle, c) =>
      if handle.length > 1 && handle.toList.getLast? = some '!' then
        match scanTagText false fuel c with
        | .error e => .error e
        | .ok (suffix, c) => .ok (handle, suffix, c)
      else
        match scanTagChars false fuel c with
        | .error e => .error e
        | .ok (xs, c) =>
          let suffix := tagText (handle.toList.drop 1 ++ xs)
          if suffix = "" then .ok ("", "!", c) else .ok ("!", suffix, c)

/-- Reads a tag, which a gap must follow, or a comma in a flow collection. -/
def scanTag (inFlow : Bool) (fuel : Nat) (c : Cursor) : Except Fault (Token × Cursor) :=
  match scanTagParts fuel c with
  | .error e => .error e
  | .ok (handle, suffix, c) =>
    if c.gapAt 0 || (inFlow && c.sees ',') then .ok (.tag handle suffix, c) else .error .badTag

/-- Reads a number of at most nine digits. -/
def scanVersionNumber (c : Cursor) : Except Fault (Nat × Cursor) :=
  let digits := c.rest.takeWhile Char.isDigit
  if digits.isEmpty || 9 < digits.length then .error .badDirective
  else .ok (digits.foldl (fun n x => 10 * n + (x.toNat - 0x30)) 0, c.skip digits.length)

/-- Reads the version that a directive names. -/
def scanVersion (c : Cursor) : Except Fault (Token × Cursor) :=
  match scanVersionNumber (c.skipWhile isSpace) with
  | .error e => .error e
  | .ok (major, c) =>
    if c.sees '.' then
      match scanVersionNumber c.skip with
      | .error e => .error e
      | .ok (minor, c) => .ok (.version major minor, c)
    else .error .badDirective

/-- Reads the handle that a directive declares, and what it stands for. -/
def scanHandleDeclaration (fuel : Nat) (c : Cursor) : Except Fault (Token × Cursor) :=
  match scanHandle (c.skipWhile isSpace) with
  | .error e => .error e
  | .ok (name, c) =>
    if (name ≠ "!" && name.toList.getLast? ≠ some '!') || !c.next isSpace then .error .badDirective
    else
      match scanTagText true fuel (c.skipWhile isSpace) with
      | .error e => .error e
      | .ok (stem, c) => if c.gapAt 0 then .ok (.handle name stem, c) else .error .badDirective

/-- Reads a directive from behind its `%` to the end of its line. -/
def scanDirective (fuel : Nat) (c : Cursor) : Except Fault (Token × Cursor) :=
  let name := String.ofList (c.rest.takeWhile isWord)
  let c := c.skip name.length
  if !c.gapAt 0 then .error .badDirective
  else
    let body :=
      if name = "YAML" then scanVersion c
      else if name = "TAG" then scanHandleDeclaration fuel c
      else .error .badDirective
    match body with
    | .error e => .error e
    | .ok (token, c) =>
      match scanLineRest c with
      | none => .error .badDirective
      | some c => .ok (token, c)

end FactViews.Yaml
