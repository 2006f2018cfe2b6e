/-! # Patterns

A pattern is a regular expression. Not every pattern that can be written can be used: there is no
table of character properties or of upper and lower case, so whatever would need one is refused,
and so is whatever could match a part of a character. -/

namespace FactViews.LogFilter

/-- The modes that decide what a pattern may contain. -/
structure Modes where
  /-- Whether blanks and comments are passed over. -/
  verbose : Bool := false
  /-- Whether upper and lower case are the same. -/
  caseless : Bool := false
  /-- Whether characters are matched, and not bytes. -/
  unicode : Bool := true
deriving DecidableEq, Repr

/-- Letters of modes, each with whether the mode is switched on. -/
abbrev Switches := List (Char × Bool)

/-- The setting that switches give to the mode with a letter, or else the one it had. -/
def Switches.setting (s : Switches) (letter : Char) (before : Bool) : Bool :=
  ((s.find? (·.1 = letter)).map Prod.snd).getD before

/-- The modes after switches. -/
def Modes.switch (m : Modes) (s : Switches) : Modes where
  verbose := s.setting 'x' m.verbose
  caseless := s.setting 'i' m.caseless
  unicode := s.setting 'u' m.unicode

/-- A set of characters. -/
inductive CharSet where
  | nothing
  /-- The characters from one to another. -/
  | range (first last : Char)
  /-- A set with a name, such as the letters, or its complement. -/
  | named (complement : Bool)
  /-- Digits, blanks or characters of words, or the complement of one of these. -/
  | kind (complement : Bool)
  | union (parts : List CharSet)
  /-- A set in brackets, or its complement. -/
  | nested (complement : Bool) (body : CharSet)
  /-- The intersection or difference of two sets. -/
  | operation (left right : CharSet)
deriving Repr, Inhabited

/-- A pattern. -/
inductive Pattern where
  | empty
  /-- Switches for what follows. -/
  | switch (s : Switches)
  /-- One character; it may be written as a byte. -/
  | literal (c : Char) (byte : Bool)
  /-- Any character. -/
  | any
  /-- The beginning or the end of a line or of the text. -/
  | anchor
  /-- The beginning or the end of a word. -/
  | wordEdge
  /-- Digits, blanks or characters of words, or the complement of one of these. -/
  | kind (complement : Bool)
  | set (complement : Bool) (body : CharSet)
  | repeated (p : Pattern)
  | group (s : Switches) (p : Pattern)
  | sequence (ps : List Pattern)
  | alternatives (ps : List Pattern)
deriving Repr, Inhabited

mutual

/-- How deep sets are nested. -/
def CharSet.depth : CharSet → Nat
  | .union parts => CharSet.depths parts + 1
  | .nested _ body => body.depth + 1
  | .operation left right => max left.depth right.depth + 1
  | _ => 0

/-- The greatest depth of several sets. -/
def CharSet.depths : List CharSet → Nat
  | [] => 0
  | s :: rest => max s.depth (CharSet.depths rest)

end

mutual

/-- How deep patterns are nested. -/
def Pattern.depth : Pattern → Nat
  | .set _ body => body.depth + 1
  | .repeated p => p.depth + 1
  | .group _ p => p.depth + 1
  | .sequence ps => Pattern.depths ps + 1
  | .alternatives ps => Pattern.depths ps + 1
  | _ => 0

/-- The greatest depth of several patterns. -/
def Pattern.depths : List Pattern → Nat
  | [] => 0
  | p :: rest => max p.depth (Pattern.depths rest)

end

/-- Characters that are a single byte. -/
def isAscii (c : Char) : Bool := c.toNat < 0x80

mutual

/-- Whether a set can be used. For bytes it must consist of single-byte characters; for
characters it must not need a table. -/
def CharSet.isUsable (m : Modes) : CharSet → Bool
  | .nothing => true
  | .range first last => if m.unicode then !m.caseless else isAscii first && isAscii last
  | .named complement => if m.unicode then !m.caseless else !complement
  | .kind complement => !m.unicode && !complement
  | .union parts => CharSet.areUsable m parts
  | .nested complement body => (m.unicode || !complement) && body.isUsable m
  | .operation left right => left.isUsable m && right.isUsable m

/-- Whether several sets can be used. -/
def CharSet.areUsable (m : Modes) : List CharSet → Bool
  | [] => true
  | s :: rest => s.isUsable m && CharSet.areUsable m rest

end

mutual

/-- The modes after a pattern that is used in the given modes, or `none` if it cannot be used.
Switches hold up to the end of the group in which they stand. -/
def Pattern.modesAfter (m : Modes) : Pattern → Option Modes
  | .empty => some m
  | .switch s => some (m.switch s)
  | .literal c byte =>
    if m.unicode then if m.caseless then none else some m
    else if byte && !isAscii c then none else some m
  | .any => if m.unicode then some m else none
  | .anchor => some m
  | .wordEdge => if m.unicode then none else some m
  | .kind complement => if m.unicode || complement then none else some m
  | .set complement body => if (CharSet.nested complement body).isUsable m then some m else none
  | .repeated p => p.modesAfter m
  | .group s p => (p.modesAfter (m.switch s)).map fun _ => m
  | .sequence ps => Pattern.modesAfterAll m ps
  | .alternatives ps => Pattern.modesAfterAll m ps

/-- The modes after several patterns, one after another. -/
def Pattern.modesAfterAll (m : Modes) : List Pattern → Option Modes
  | [] => some m
  | p :: rest =>
    match p.modesAfter m with
    | none => none
    | some m => Pattern.modesAfterAll m rest

end

/-- The greatest depth of a pattern. -/
def maxPatternDepth : Nat := 250

/-- Whether a pattern can be used. -/
def Pattern.isUsable (p : Pattern) : Bool :=
  p.depth ≤ maxPatternDepth && (p.modesAfter {}).isSome

end FactViews.LogFilter
