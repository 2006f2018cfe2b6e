import FactViews.Toml.Value

/-! # Texts in TOML

Four kinds of text: basic and literal, each on one line or on several. Only basic texts have
escapes. A line break directly after the opening of a text on several lines does not belong to
it. -/

namespace FactViews.Toml

/-- The greatest number of nested arrays and inline tables, and of the parts of a key. -/
def maxDepth : Nat := 80

/-- Characters that may stand unescaped in a text or a comment. -/
def isPrintable (c : Char) : Bool := c = '\t' || (0x20 ≤ c.toNat && c.toNat ≠ 0x7F)

/-- Blanks within a line. -/
def isSpace (c : Char) : Bool := c = ' ' || c = '\t'

/-- Passes one line break. -/
def newline? : List Char → Option (List Char)
  | '\n' :: rest => some rest
  | '\r' :: '\n' :: rest => some rest
  | _ => none

/-- The value of a hexadecimal digit. -/
def hexValue? (c : Char) : Option Nat :=
  if c.isDigit then some (c.toNat - 0x30)
  else if 'a' ≤ c && c ≤ 'f' then some (c.toNat - 0x61 + 10)
  else if 'A' ≤ c && c ≤ 'F' then some (c.toNat - 0x41 + 10)
  else none

/-- The character with the given number of hexadecimal digits. -/
def hexChar? (count : Nat) (cs : List Char) : Option (Char × List Char) :=
  match (cs.take count).mapM hexValue? with
  | none => none
  | some ds =>
    let n := ds.foldl (fun n d => 16 * n + d) 0
    if ds.length < count || (0xD800 ≤ n && n ≤ 0xDFFF) || 0x10FFFF < n then none
    else some (Char.ofNat n, cs.drop count)

/-- The character that an escape stands for, from behind the backslash. -/
def escape? : List Char → Option (Char × List Char)
  | 'b' :: rest => some ('\x08', rest)
  | 't' :: rest => some ('\t', rest)
  | 'n' :: rest => some ('\n', rest)
  | 'f' :: rest => some ('\x0c', rest)
  | 'r' :: rest => some ('\r', rest)
  | 'e' :: rest => some ('\x1b', rest)
  | '\x22' :: rest => some ('\x22', rest)
  | '\\' :: rest => some ('\\', rest)
  | 'x' :: rest => hexChar? 2 rest
  | 'u' :: rest => hexChar? 4 rest
  | 'U' :: rest => hexChar? 8 rest
  | _ => none

/-- Reads a text on one line from behind its opening mark. -/
def lineText (basic : Bool) : Nat → List Char → List Char → Except Fault (String × List Char)
  | 0, _, _ => .error .unclosedString
  | fuel + 1, acc, cs =>
    match cs with
    | [] => .error .unclosedString
    | c :: rest =>
      if c = (if basic then '\x22' else '\x27') then .ok (String.ofList acc.reverse, rest)
      else if basic && c = '\\' then
        match escape? rest with
        | some (x, rest) => lineText basic fuel (x :: acc) rest
        | none => .error .badEscape
      else if isPrintable c then lineText basic fuel (c :: acc) rest
      else .error .unclosedString

/-- Passes blanks and line breaks. -/
def skipBlankLines : List Char → List Char
  | '\r' :: '\n' :: rest => skipBlankLines rest
  | c :: rest => if isSpace c || c = '\n' then skipBlankLines rest else c :: rest
  | [] => []

/-- Passes the blanks and line breaks after a backslash at the end of a line; the first line must
end after blanks. -/
def joinLines? (cs : List Char) : Option (List Char) :=
  (newline? (cs.dropWhile isSpace)).map skipBlankLines

/-- Reads a text on several lines from behind its opening. It is closed by three marks, before
which up to two more belong to the text. -/
def blockText (basic : Bool) : Nat → List Char → List Char → Except Fault (String × List Char)
  | 0, _, _ => .error .unclosedString
  | fuel + 1, acc, cs =>
    let mark := if basic then '\x22' else '\x27'
    match cs with
    | [] => .error .unclosedString
    | c :: rest =>
      if c = mark then
        let run := min 5 (cs.takeWhile (· = mark)).length
        if 3 ≤ run then
          .ok (String.ofList (List.replicate (run - 3) mark ++ acc).reverse, cs.drop run)
        else blockText basic fuel (c :: acc) rest
      else if basic && c = '\\' then
        match joinLines? rest with
        | some rest => blockText basic fuel acc rest
        | none =>
          match escape? rest with
          | some (x, rest) => blockText basic fuel (x :: acc) rest
          | none => .error .badEscape
      else if c = '\r' then
        if rest.head? = some '\n' then blockText basic fuel (c :: acc) rest
        else .error .unclosedString
      else if c = '\n' || isPrintable c then blockText basic fuel (c :: acc) rest
      else .error .unclosedString

/-- Whether a text on several lines begins here. -/
def opensBlock (mark : Char) (cs : List Char) : Bool := cs.take 3 == [mark, mark, mark]

/-- Reads a text of any kind at its opening mark; `none` if there is none. -/
def text? (fuel : Nat) (cs : List Char) : Option (Except Fault (String × List Char)) :=
  match cs with
  | c :: rest =>
    if c = '\x22' || c = '\x27' then
      let basic := c = '\x22'
      if opensBlock c cs then
        let body := cs.drop 3
        some (blockText basic fuel [] ((newline? body).getD body))
      else some (lineText basic fuel [] rest)
    else none
  | [] => none

/-- Characters of a key without quotes. -/
def isBareKey (c : Char) : Bool := c.isAlphanum || c = '_' || c = '-'

/-- Reads one part of a key. -/
def keyPart (fuel : Nat) (cs : List Char) : Except Fault (String × List Char) :=
  match cs with
  | [] => .error .badKey
  | c :: rest =>
    if c = '\x22' || c = '\x27' then
      if opensBlock c cs then .error .badKey else lineText (c = '\x22') fuel [] rest
    else
      let name := cs.takeWhile isBareKey
      if name.isEmpty then .error .badKey else .ok (String.ofList name, cs.drop name.length)

/-- Reads the parts of a key: there are dots between them, and blanks around the dots. -/
def keyParts (fuel : Nat) : Nat → List Char → Except Fault (List String × List Char)
  | 0, _ => .error .badKey
  | n + 1, cs =>
    match keyPart fuel cs with
    | .error e => .error e
    | .ok (part, rest) =>
      match rest.dropWhile isSpace with
      | '.' :: more =>
        match keyParts fuel n (more.dropWhile isSpace) with
        | .error e => .error e
        | .ok (parts, rest) => .ok (part :: parts, rest)
      | _ => .ok ([part], rest)

/-- Reads a key, which must not have too many parts. -/
def key (fuel : Nat) (cs : List Char) : Except Fault (List String × List Char) :=
  match keyParts fuel fuel cs with
  | .error e => .error e
  | .ok (parts, rest) => if maxDepth < parts.length then .error .tooDeep else .ok (parts, rest)

end FactViews.Toml
