import FactViews.LogFilter.Pattern.Reader
import FactViews.Text.Lowercase

/-! # Log filters

A filter is a list of directives separated by commas. A directive is a level, a target, or a
target with a level; a target may be narrowed to a span and its fields in brackets. A single word
is never wrong: it is a level or else a target. The value of a field is a number or a pattern.

Places in a directive are counted from its first character that is no blank, but what stands at
them is looked up from the very beginning of the text. So with blanks in front the words of a
directive are taken from further left than where they stand. -/

namespace FactViews.LogFilter
open Text

/-- Whether a text is a number that a level has: zero to five, with any leading zeros. -/
def isLevelNumber (s : String) : Bool :=
  let digits := match s.toList with
    | '+' :: rest => rest
    | cs => cs
  !digits.isEmpty && digits.all Char.isDigit &&
    (digits.foldl (fun n c => 10 * n + (c.toNat - 0x30)) 0) ≤ 5

/-- Whether a text names a level; the case of ASCII letters does not matter. -/
def isLevel (s : String) : Bool :=
  ["off", "error", "warn", "info", "debug", "trace"].contains (asciiLowercase s) || isLevelNumber s

/-- Whether a text is an unsigned decimal number, with or without a fraction and an exponent. -/
def isUnsignedNumber (cs : List Char) : Bool :=
  let whole := cs.takeWhile Char.isDigit
  let rest := cs.drop whole.length
  let fraction := if rest.head? = some '.' then (rest.drop 1).takeWhile Char.isDigit else []
  let rest := if rest.head? = some '.' then rest.drop (fraction.length + 1) else rest
  !(whole.isEmpty && fraction.isEmpty) &&
    match rest with
    | [] => true
    | e :: exponent =>
      let digits := match exponent with
        | '+' :: ds => ds
        | '-' :: ds => ds
        | ds => ds
      (e = 'e' || e = 'E') && !digits.isEmpty && digits.all Char.isDigit

/-- Whether a text is a number, be it infinite or none at all. -/
def isNumber (cs : List Char) : Bool :=
  let body := match cs with
    | '+' :: rest => rest
    | '-' :: rest => rest
    | cs => cs
  isUnsignedNumber body ||
    ["inf", "infinity", "nan"].contains (asciiLowercase (String.ofList body))

/-- Whether a text is a field: a name, or a name and a value behind an equals sign. What follows
another equals sign does not matter. -/
def isField (cs : List Char) : Bool :=
  match splitChars '=' cs with
  | _ :: value :: _ => isNumber value || isPattern value
  | _ => !cs.isEmpty

/-- What is left of a text without so many bytes at its beginning. -/
def dropBytes : Nat → List Char → List Char
  | _, [] => []
  | n, c :: rest => if n = 0 then c :: rest else dropBytes (n - c.utf8Size) rest

/-- So many bytes at the beginning of a text. -/
def takeBytes : Nat → List Char → List Char
  | _, [] => []
  | n, c :: rest => if n = 0 then [] else c :: takeBytes (n - c.utf8Size) rest

/-- The part of a text between two places. -/
def between (cs : List Char) (first last : Nat) : List Char :=
  takeBytes (last - first) (dropBytes first cs)

/-- Where the reading of a directive stands. -/
inductive State where
  | start
  /-- In a word that is a level or a target. -/
  | word
  /-- In the name of a span. -/
  | span
  /-- In a field that began at a place. -/
  | field (first : Nat)
  /-- Behind the fields of a span. -/
  | fields
  /-- Behind a span. -/
  | target
  /-- In a level, of which the characters were read. -/
  | level (reversed : List Char)
deriving DecidableEq, Repr

/-- The state after one more character, which stands at a place of the given text. -/
def State.next (text : List Char) (place : Nat) : State → Char → Option State
  | .start, c =>
    if c = '[' then some .span
    else if c = '-' || c = ':' || c = '_' || isAlphanumeric c then some .word
    else none
  | .word, c => some (if c = '=' then .level [] else if c = '[' then .span else .word)
  | .span, c =>
    some (if c = ']' then .target else if c = '\x7b' then .field (place + 1) else .span)
  | .field first, c =>
    if c = '\x7d' then if isField (between text first place) then some .fields else none
    else some (.field first)
  | .fields, c => if c = ']' then some .target else none
  | .target, c => if c = '=' then some (.level []) else none
  | .level reversed, c => some (.level (c :: reversed))

/-- Whether a directive may end here. A directive with a level has no blanks around it. -/
def State.isFinal (blanks : Bool) : State → Bool
  | .word => true
  | .target => true
  | .level reversed => !blanks && (reversed.isEmpty || isLevel (String.ofList reversed.reverse))
  | _ => false

/-- The state after all characters, the first of which stands at a place. -/
def State.run (text : List Char) (place : Nat) (s : State) : List Char → Option State
  | [] => some s
  | c :: cs =>
    match s.next text place c with
    | none => none
    | some s => s.run text (place + c.utf8Size) cs

/-- Whether a text is a directive. -/
def isDirective (s : String) : Bool :=
  let body := trim s
  ((State.start.run s.toList 0 body.toList).map (State.isFinal (body ≠ s))).getD false

/-- Whether a text is a filter; empty pieces are passed over. -/
def isFilter (s : String) : Bool := (splitOn ',' s).all fun p => p = "" || isDirective p

/-- A text that is no filter. -/
structure Invalid where
  directive : String
deriving DecidableEq, Repr

/-- The text shown for a text that is no filter. -/
def Invalid.message (e : Invalid) : String := "Invalid log filter '" ++ e.directive ++ "':"

/-- The wording that follows the text. -/
def Invalid.detail : String := "invalid filter directive"

/-- The filter in force: an override if it is one, or else the configured one. -/
def choose (level : String) (override : Option String) : Except Invalid String :=
  match override.filter isFilter with
  | some filter => .ok filter
  | none => if isFilter level then .ok level else .error ⟨level⟩

end FactViews.LogFilter
