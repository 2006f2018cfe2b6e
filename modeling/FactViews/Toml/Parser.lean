import FactViews.Toml.Number
import FactViews.Toml.Table

/-! # Reading TOML

A text is a sequence of lines: key and value, header, or nothing, each with an optional comment.
Arrays and inline tables may go over several lines. -/

namespace FactViews.Toml

/-- Passes a comment up to the end of its line. -/
def comment (cs : List Char) : Except Fault (List Char) :=
  match cs with
  | '#' :: rest =>
    let rest := rest.dropWhile isPrintable
    if rest.isEmpty || (newline? rest).isSome then .ok rest else .error .unexpected
  | _ => .ok cs

/-- Passes blanks, line breaks and comments. -/
def gaps : Nat → List Char → Except Fault (List Char)
  | 0, _ => .error .unexpected
  | fuel + 1, cs =>
    match comment (cs.dropWhile isSpace) with
    | .error e => .error e
    | .ok cs =>
      match newline? cs with
      | some rest => gaps fuel rest
      | none => .ok cs

/-- Reads a key and the sign after it. What may stand around the sign is passed by a function. -/
def keyAndSign (pass : List Char → Except Fault (List Char)) (fuel : Nat) (cs : List Char) :
    Except Fault (List String × List Char) :=
  match key fuel cs with
  | .error e => .error e
  | .ok (k, rest) =>
    match pass rest with
    | .ok ('=' :: rest) => (pass rest).map fun rest => (k, rest)
    | .ok _ => .error .badKey
    | .error e => .error e

mutual

/-- Reads a value. -/
def value : Nat → Nat → List Char → Except Fault (Value × List Char)
  | 0, _, _ => .error .tooDeep
  | fuel + 1, depth, cs =>
    match cs with
    | '[' :: rest =>
      if maxDepth ≤ depth then .error .tooDeep
      else (arrayItems fuel (depth + 1) [] rest).map fun r => (.array r.1, r.2)
    | '\x7b' :: rest =>
      if maxDepth ≤ depth then .error .tooDeep
      else (inlineEntries fuel (depth + 1) [] rest).map fun r => (.table (completeEntries r.1), r.2)
    | cs =>
      match text? (fuel + 1) cs with
      | some (.ok (t, rest)) => .ok (.string t, rest)
      | some (.error e) => .error e
      | none => bare cs

/-- Reads the items of an array after the given ones. -/
def arrayItems : Nat → Nat → List Value → List Char → Except Fault (List Value × List Char)
  | 0, _, _, _ => .error .tooDeep
  | fuel + 1, depth, done, cs =>
    match gaps (fuel + 1) cs with
    | .error e => .error e
    | .ok (']' :: rest) => .ok (done.reverse, rest)
    | .ok cs =>
      match value fuel depth cs with
      | .error e => .error e
      | .ok (v, rest) =>
        match gaps (fuel + 1) rest with
        | .error e => .error e
        | .ok (']' :: rest) => .ok ((v :: done).reverse, rest)
        | .ok (',' :: rest) => arrayItems fuel depth (v :: done) rest
        | .ok _ => .error .unexpected

/-- Reads the entries of an inline table after the given ones. -/
def inlineEntries : Nat → Nat → Entries → List Char → Except Fault (Entries × List Char)
  | 0, _, _, _ => .error .tooDeep
  | fuel + 1, depth, done, cs =>
    match gaps (fuel + 1) cs with
    | .error e => .error e
    | .ok ('\x7d' :: rest) => .ok (done, rest)
    | .ok cs =>
      match keyAndSign (gaps (fuel + 1)) (fuel + 1) cs with
      | .error e => .error e
      | .ok (k, rest) =>
        match value fuel depth rest with
        | .error e => .error e
        | .ok (v, rest) =>
          match done.addValue .declared k v with
          | .error e => .error e
          | .ok done =>
            match gaps (fuel + 1) rest with
            | .error e => .error e
            | .ok ('\x7d' :: rest) => .ok (done, rest)
            | .ok (',' :: rest) => inlineEntries fuel depth done rest
            | .ok _ => .error .unexpected

end

/-- Passes the rest of a line, which must hold nothing but a comment. -/
def lineEnd (cs : List Char) : Except Fault (List Char) :=
  match comment (cs.dropWhile isSpace) with
  | .error e => .error e
  | .ok [] => .ok []
  | .ok cs =>
    match newline? cs with
    | some rest => .ok rest
    | none => .error .unexpected

/-- What has been read: the tables so far and the current header. -/
structure Progress where
  root : Entries := []
  header : List String := []

/-- Reads a header from behind its bracket, or behind its two brackets if it is repeated. -/
def header (fuel : Nat) (repeated : Bool) (p : Progress) (cs : List Char) :
    Except Fault (Progress × List Char) :=
  match key fuel (cs.dropWhile isSpace) with
  | .error e => .error e
  | .ok (k, rest) =>
    let rest := rest.dropWhile isSpace
    let width := if repeated then 2 else 1
    if rest.take width ≠ List.replicate width ']' then .error .unexpected
    else
      let root := if repeated then p.root.declareNext k else p.root.declare k
      root.map fun root => (⟨root, k⟩, rest.drop width)

/-- Reads what stands in a line before its end. -/
def line (fuel : Nat) (p : Progress) (cs : List Char) : Except Fault (Progress × List Char) :=
  match cs with
  | [] => .ok (p, [])
  | '[' :: '[' :: rest => header fuel true p rest
  | '[' :: rest => header fuel false p rest
  | c :: rest =>
    if c = '#' || (newline? (c :: rest)).isSome then .ok (p, c :: rest)
    else
      match keyAndSign (fun cs => .ok (cs.dropWhile isSpace)) fuel (c :: rest) with
      | .error e => .error e
      | .ok (k, rest) =>
        match value fuel 0 rest with
        | .error e => .error e
        | .ok (v, rest) => (p.root.addUnder p.header k v).map fun root => ({ p with root }, rest)

/-- Reads lines up to the end of the text. -/
def lines (fuel : Nat) : Nat → Progress → List Char → Except Fault Progress
  | _, p, [] => .ok p
  | 0, _, _ => .error .unexpected
  | n + 1, p, cs =>
    match line fuel p (cs.dropWhile isSpace) with
    | .error e => .error e
    | .ok (p, rest) =>
      match lineEnd rest with
      | .error e => .error e
      | .ok rest => lines fuel n p rest

/-- The entries of a text. A byte order mark at its beginning is ignored. -/
def parse (s : String) : Except Fault (List (String × Value)) :=
  let cs := s.toList
  let cs := if cs.head?.any (·.toNat = 0xFEFF) then cs.drop 1 else cs
  let fuel := cs.length + 2
  (lines fuel fuel {} cs).map fun p => completeEntries p.root

end FactViews.Toml
