/-! # Characters and positions

Character classes of YAML text, and a cursor that knows the line and column it has reached. -/

namespace FactViews.Yaml

/-- Characters that may occur in a document. -/
def isAllowed (c : Char) : Bool :=
  let n := c.toNat
  n == 0x9 || n == 0xA || n == 0xD || (0x20 ≤ n && n ≤ 0x7E) || n == 0x85 ||
  (0xA0 ≤ n && n ≤ 0xD7FF) || (0xE000 ≤ n && n ≤ 0xFFFD) || 0x10000 ≤ n

/-- Line breaks. -/
def isBreak (c : Char) : Bool :=
  let n := c.toNat
  n == 0xA || n == 0xD || n == 0x85 || n == 0x2028 || n == 0x2029

/-- Blanks within a line. -/
def isSpace (c : Char) : Bool := c = ' ' || c = '\t'

/-- Blanks and line breaks. -/
def isGap (c : Char) : Bool := isSpace c || isBreak c

/-- Characters of anchor names, tag handles and directive names. -/
def isWord (c : Char) : Bool := c.isAlphanum || c = '_' || c = '-'

/-- The characters that delimit flow collections. -/
def isFlowDelimiter (c : Char) : Bool := c = ',' || c = '[' || c = ']' || c = '\x7b' || c = '\x7d'

/-- Characters that cannot begin a plain text, whatever follows them. -/
def isReserved (c : Char) : Bool :=
  isFlowDelimiter c || c = '#' || c = '&' || c = '*' || c = '!' || c = '|' || c = '>' ||
  c = '\x27' || c = '\x22' || c = '%' || c = '@' || c = '\x60'

/-- The remaining text and how far it is from the beginning. -/
structure Cursor where
  rest : List Char
  /-- Bytes passed. -/
  index : Nat := 0
  /-- Lines passed. -/
  line : Nat := 0
  /-- Characters passed in this line. -/
  column : Nat := 0
deriving Repr

namespace Cursor

/-- Whether the text has ended. -/
def atEnd (c : Cursor) : Bool := c.rest.isEmpty

/-- The character some places ahead. -/
def ahead? (c : Cursor) (n : Nat) : Option Char := c.rest[n]?

/-- Whether the next character has a property. -/
def next (c : Cursor) (p : Char → Bool) : Bool := c.rest.head?.any p

/-- Whether the next character is the given one. -/
def sees (c : Cursor) (x : Char) : Bool := c.rest.head? = some x

/-- Whether the character some places ahead is a blank, a line break or the end. -/
def gapAt (c : Cursor) (n : Nat) : Bool := (c.ahead? n).all isGap

/-- Whether a line break or the end comes next. -/
def atLineEnd (c : Cursor) : Bool := c.rest.head?.all isBreak

/-- The number of bytes of some characters. -/
def width (cs : List Char) : Nat := cs.foldl (fun n c => n + c.utf8Size) 0

/-- Passes characters of the same line. -/
def skip (c : Cursor) (n : Nat := 1) : Cursor :=
  { c with
    rest := c.rest.drop n
    index := c.index + width (c.rest.take n)
    column := c.column + n }

/-- Passes the characters of the same line that have a property. -/
def skipWhile (c : Cursor) (p : Char → Bool) : Cursor := c.skip (c.rest.takeWhile p).length

/-- Passes the rest of the line up to its break. -/
def skipToLineEnd (c : Cursor) : Cursor := c.skipWhile (!isBreak ·)

/-- Passes one line break. The first result is the text it stands for. -/
def takeBreak (c : Cursor) : String × Cursor :=
  match c.rest with
  | [] => ("", c)
  | b :: rest =>
    match b, rest with
    | '\r', '\n' :: rest' =>
      ("\n", { rest := rest', index := c.index + 2, line := c.line + 1, column := 0 })
    | b, rest =>
      if isBreak b then
        (if b.toNat = 0x2028 || b.toNat = 0x2029 then b.toString else "\n",
          { rest, index := c.index + b.utf8Size, line := c.line + 1, column := 0 })
      else ("", c)

/-- Passes one line break. -/
def skipBreak (c : Cursor) : Cursor := c.takeBreak.2

/-- Whether a line begins here with three times the given character and a gap. -/
def marker (c : Cursor) (x : Char) : Bool :=
  c.column == 0 && c.rest.take 3 == [x, x, x] && c.gapAt 3

/-- Whether a document marker begins here. -/
def atMarker (c : Cursor) : Bool := c.marker '-' || c.marker '.'

end Cursor
end FactViews.Yaml
