import FactViews.Text.Lowercase.Table

/-! # Lower case

`lowercase` is the full lower-case mapping of Unicode text. It differs from a mapping of single
characters in two places: U+0130 becomes two characters, and a capital sigma becomes a final
sigma at the end of a word. `asciiLowercase` touches the letters A to Z only. -/

namespace FactViews.Text

/-- Lower-cases the letters A to Z and keeps every other character. -/
def asciiLowercase (s : String) : String :=
  String.ofList (s.toList.map Char.toLower)

/-- Cased characters: those with an upper-case, lower-case or title-case form. -/
def isCased (c : Char) : Bool := inRanges casedRanges c

/-- Characters that do not interrupt a word for the final-sigma rule. -/
def isCaseIgnorable (c : Char) : Bool := inRanges caseIgnorableRanges c

/-- Whether the first character that is not case-ignorable is cased. -/
def startsCased (cs : List Char) : Bool :=
  match cs.dropWhile isCaseIgnorable with
  | [] => false
  | c :: _ => isCased c

/-- The lower-case mapping of a single character to a single character. -/
def lowercaseChar (c : Char) : Char :=
  if c.toNat < 0x80 then c.toLower
  else
    match lowercaseRuns.find? (·.covers c.toNat) with
    | some r => Char.ofNat (c.toNat + r.shift).toNat
    | none => c

/-- The lower-case form of one character, given the characters before it (nearest first) and
after it. A capital sigma is final when a cased letter precedes it and none follows. -/
def lowercaseAt (before : List Char) (c : Char) (after : List Char) : List Char :=
  if c.toNat = 0x130 then ['i', Char.ofNat 0x307]
  else if c.toNat = 0x3A3 then
    if startsCased before && !startsCased after then [Char.ofNat 0x3C2] else [Char.ofNat 0x3C3]
  else [lowercaseChar c]

/-- Lower-cases a text whose preceding characters, nearest first, are given. -/
def lowercaseFrom (before : List Char) : List Char → List Char
  | [] => []
  | c :: rest => lowercaseAt before c rest ++ lowercaseFrom (c :: before) rest

/-- Full lower-case mapping of a text. -/
def lowercase (s : String) : String :=
  String.ofList (lowercaseFrom [] s.toList)

end FactViews.Text
