import FactViews.Text.Basic

/-! # JSON text

The JSON values that a manifest consists of, and their indented text: two blanks a level, one
element a line, and nothing between the brackets of an empty collection. -/

namespace FactViews

/-- A JSON value made of texts, lists and objects with ordered fields. -/
inductive Json where
  | string (text : String)
  | array (items : List Json)
  | object (fields : List (String × Json))
deriving Repr, Inhabited

namespace Json

/-- A hexadecimal digit in lower case. -/
def hexDigit (n : Nat) : Char := Nat.digitChar (n % 16)

/-- The written form of one character of a text. -/
def escapeChar (c : Char) : List Char :=
  if c = '\x22' then ['\\', '\x22']
  else if c = '\\' then ['\\', '\\']
  else if c = '\n' then ['\\', 'n']
  else if c = '\t' then ['\\', 't']
  else if c = '\r' then ['\\', 'r']
  else if c.toNat = 0x8 then ['\\', 'b']
  else if c.toNat = 0xC then ['\\', 'f']
  else if c.toNat < 0x20 then ['\\', 'u', '0', '0', hexDigit (c.toNat / 16), hexDigit c.toNat]
  else [c]

/-- A text between quotation marks. -/
def quoted (s : String) : String :=
  String.ofList ('\x22' :: s.toList.flatMap escapeChar ++ ['\x22'])

/-- A line break and the blanks of a level. -/
def newline (level : Nat) : String := String.ofList ('\n' :: List.replicate (2 * level) ' ')

mutual

/-- The text of a value whose first line is already indented to a level. -/
def pretty (level : Nat) : Json → String
  | .string s => quoted s
  | .array [] => "[]"
  | .array (x :: xs) =>
    "[" ++ newline (level + 1) ++ pretty (level + 1) x ++ prettyItems (level + 1) xs ++
      newline level ++ "]"
  | .object [] => "\x7b\x7d"
  | .object ((k, v) :: fs) =>
    "\x7b" ++ newline (level + 1) ++ quoted k ++ ": " ++ pretty (level + 1) v ++
      prettyFields (level + 1) fs ++ newline level ++ "\x7d"

/-- The texts of the items after the first. -/
def prettyItems (level : Nat) : List Json → String
  | [] => ""
  | x :: xs => "," ++ newline level ++ pretty level x ++ prettyItems level xs

/-- The texts of the fields after the first. -/
def prettyFields (level : Nat) : List (String × Json) → String
  | [] => ""
  | (k, v) :: fs =>
    "," ++ newline level ++ quoted k ++ ": " ++ pretty level v ++ prettyFields level fs

end

/-- The indented text of a value. -/
def text (j : Json) : String := j.pretty 0

end Json
end FactViews
