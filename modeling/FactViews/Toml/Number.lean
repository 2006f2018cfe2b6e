import FactViews.Toml.Text

/-! # Numbers, dates and truth values in TOML

These values are written without quotes, and their form decides what they are. -/

namespace FactViews.Toml

/-- Whether a list is a run of digits with single underscores between digits. -/
def isDigitRun (isDigit : Char → Bool) : List Char → Bool
  | [] => false
  | [d] => isDigit d
  | d :: '_' :: rest => isDigit d && isDigitRun isDigit rest
  | d :: rest => isDigit d && isDigitRun isDigit rest

/-- The number that digits stand for; underscores are passed over. -/
def digitsValue (radix : Nat) (cs : List Char) : Nat :=
  (cs.filterMap hexValue?).foldl (fun n d => radix * n + d) 0

/-- Splits off a sign. -/
def splitSign : List Char → Bool × List Char
  | '-' :: rest => (true, rest)
  | '+' :: rest => (false, rest)
  | cs => (false, cs)

/-- Whether a list is a decimal number without a sign: no zero stands before other digits. -/
def isDecimal (cs : List Char) : Bool :=
  isDigitRun Char.isDigit cs && (cs.length == 1 || cs.head? != some '0')

/-- The smallest integer that can be represented. -/
def minInteger : Int := -(Int.ofNat (Nat.pow 2 127))

/-- The first integer that is too large to be represented. -/
def maxInteger : Int := Int.ofNat (Nat.pow 2 128)

/-- An integer with the given sign and digits. -/
def integerOf (radix : Nat) (negative : Bool) (ds : List Char) : Value :=
  let n : Int := digitsValue radix ds
  let n := if negative then -n else n
  .integer (if minInteger ≤ n && n < maxInteger then some n else none)

/-- Whether every underscore has digits as its neighbours. The flag says whether a digit stands
before the list. -/
def marksBetween (isDigit : Char → Bool) : Bool → List Char → Bool
  | _, [] => true
  | before, c :: rest =>
    if c = '_' then before && rest.head?.any isDigit && marksBetween isDigit false rest
    else marksBetween isDigit (isDigit c) rest

/-- Hexadecimal digits. -/
def isHexDigit (c : Char) : Bool := (hexValue? c).isSome

/-- Digits and the underscores between them. -/
def isDigitOrMark (c : Char) : Bool := c.isDigit || c = '_'

/-- An integer in another radix than ten, from behind the prefix that names the radix. -/
def radixInteger (radix : Nat) (isDigit : Char → Bool) (ds : List Char) : Except Fault Value :=
  if ds.isEmpty then .ok (.integer none)
  else if isDigitRun isDigit ds then .ok (integerOf radix false ds)
  else .error .badValue

/-- Whether the underscores in a number stand between digits. -/
def isMarked (isDigit : Char → Bool) (cs : List Char) : Bool := marksBetween isDigit false cs

/-- A decimal integer in which underscores occur. What stands between the digits next to the
underscores is not looked at yet. -/
def markedInteger (cs : List Char) : Except Fault Value :=
  let (negative, body) := splitSign cs
  if body.head? = some '0' || !isMarked isHexDigit cs then .error .badValue
  else if body.all isDigitOrMark then .ok (integerOf 10 negative body)
  else .ok (.integer none)

/-- Whether `m · 10 ^ e` is too large for a double. -/
def exceedsDouble (m : Nat) (e : Int) : Bool :=
  let digits : Int := (Nat.toDigits 10 m).length
  let limit : Nat := Nat.pow 2 1024 - Nat.pow 2 970
  if m = 0 || digits + e < 300 then false
  else if 320 < digits + e then true
  else if 0 ≤ e then limit ≤ m * Nat.pow 10 e.toNat
  else limit * Nat.pow 10 (-e).toNat ≤ m

/-- Whether a list holds a digit and otherwise only digits and underscores. -/
def hasDigits (cs : List Char) : Bool := cs.all isDigitOrMark && cs.any Char.isDigit

/-- Reads a number with a fraction or an exponent; the result says whether it is too large. -/
def float? (cs : List Char) : Option Bool :=
  let body := (splitSign cs).2
  let whole := body.takeWhile isDigitOrMark
  let rest := body.drop whole.length
  let (frac, rest) := match rest with
    | '.' :: more =>
      let frac := more.takeWhile isDigitOrMark
      (some frac, more.drop frac.length)
    | _ => (none, rest)
  let (expo, rest) := match rest with
    | c :: more => if c = 'e' || c = 'E' then (some more, []) else (none, c :: more)
    | [] => (none, [])
  let leadingZero := whole.head? = some '0' && 1 < (whole.filter Char.isDigit).length
  if hasDigits whole && !leadingZero && rest.isEmpty && frac.all hasDigits &&
      expo.all (fun e => hasDigits (splitSign e).2) && isMarked Char.isDigit cs then
    let fracDigits := (frac.getD []).filter Char.isDigit
    let e : Int := match expo with
      | none => 0
      | some e =>
        let (negative, ds) := splitSign e
        if negative then -(digitsValue 10 ds : Int) else digitsValue 10 ds
    some (exceedsDouble (digitsValue 10 (whole ++ fracDigits)) (e - fracDigits.length))
  else none

/-- Reads a number of exactly so many digits. -/
def fixedDigits? (count : Nat) (cs : List Char) : Option (Nat × List Char) :=
  let ds := cs.take count
  if ds.length = count && ds.all Char.isDigit then some (digitsValue 10 ds, cs.drop count) else none

/-- The number of days of a month. -/
def daysIn (year month : Nat) : Nat :=
  if month = 2 then if year % 4 = 0 && (year % 100 ≠ 0 || year % 400 = 0) then 29 else 28
  else if month = 4 || month = 6 || month = 9 || month = 11 then 30
  else 31

/-- Passes a date. -/
def date? (cs : List Char) : Option (List Char) := do
  let (year, cs) ← fixedDigits? 4 cs
  guard (cs.head? = some '-')
  let (month, cs) ← fixedDigits? 2 (cs.drop 1)
  guard (cs.head? = some '-' && 1 ≤ month && month ≤ 12)
  let (day, cs) ← fixedDigits? 2 (cs.drop 1)
  guard (1 ≤ day && day ≤ daysIn year month)
  return cs

/-- Passes a time of day; seconds and their fraction may be left out. -/
def time? (cs : List Char) : Option (List Char) := do
  let (hour, cs) ← fixedDigits? 2 cs
  guard (cs.head? = some ':' && hour ≤ 23)
  let (minute, cs) ← fixedDigits? 2 (cs.drop 1)
  guard (minute ≤ 59)
  if cs.head? = some ':' then
    let (second, cs) ← fixedDigits? 2 (cs.drop 1)
    guard (second ≤ 60)
    if cs.head? = some '.' then
      let frac := (cs.drop 1).takeWhile Char.isDigit
      guard !frac.isEmpty
      return cs.drop (frac.length + 1)
    else return cs
  else return cs

/-- Passes the offset of a time zone. -/
def offset? (cs : List Char) : Option (List Char) := do
  match cs with
  | c :: rest =>
    if c = 'Z' || c = 'z' then return rest
    else
      guard (c = '+' || c = '-')
      let (hour, rest) ← fixedDigits? 2 rest
      guard (rest.head? = some ':' && hour ≤ 23)
      let (minute, rest) ← fixedDigits? 2 (rest.drop 1)
      guard (minute ≤ 59)
      return rest
  | [] => none

/-- Whether a list is a date, a time of day, or both with or without an offset. -/
def isDatetime (cs : List Char) : Bool :=
  match date? cs with
  | some [] => true
  | some (sep :: rest) =>
    (sep = 'T' || sep = 't' || sep = ' ') &&
      match time? rest with
      | some [] => true
      | some zone => offset? zone = some []
      | none => false
  | none => time? cs = some []

/-- Characters of values without quotes. -/
def isBareValue (c : Char) : Bool :=
  !(isSpace c || c = '\n' || c = '\r' || c = '=' || c = ',' || c = '#' || c = '[' || c = ']' ||
    c = '\x7b' || c = '\x7d')

/-- The number, date or time in a written form. The first character behind the leading digits
tells which of them it is. -/
def numeral (cs : List Char) : Except Fault Value :=
  let (negative, body) := splitSign cs
  let digits := body.takeWhile Char.isDigit
  match body.drop digits.length with
  | [] => if isDecimal digits then .ok (integerOf 10 negative digits) else .error .badValue
  | c :: rest =>
    if c = '-' || c = ':' then
      if isDatetime cs then .ok (.datetime (String.ofList cs)) else .error .badValue
    else if (c :: rest).any fun x => x = '.' || x = 'e' || x = 'E' then
      match float? cs with
      | some tooLarge => .ok (.float (String.ofList cs) !tooLarge)
      | none => .error .badValue
    else if c = '_' then markedInteger cs
    else .error .badValue

/-- The value in a written form without quotes. -/
def bareValue (cs : List Char) : Except Fault Value :=
  let body := (splitSign cs).2
  if cs = "true".toList then .ok (.boolean true)
  else if cs = "false".toList then .ok (.boolean false)
  else if body = "inf".toList || body = "nan".toList then .ok (.float (String.ofList cs) true)
  else
    match cs with
    | '0' :: 'x' :: ds => radixInteger 16 isHexDigit ds
    | '0' :: 'o' :: ds => radixInteger 8 (fun c => '0' ≤ c && c ≤ '7') ds
    | '0' :: 'b' :: ds => radixInteger 2 (fun c => c = '0' || c = '1') ds
    | _ => numeral cs

/-- Reads a value without quotes. A blank may stand between a date and a time. -/
def bare (cs : List Char) : Except Fault (Value × List Char) :=
  let word := cs.takeWhile isBareValue
  let rest := cs.drop word.length
  let word :=
    match date? word, rest with
    | some [], ' ' :: d :: more =>
      if d.isDigit then word ++ ' ' :: (d :: more).takeWhile isBareValue else word
    | _, _ => word
  (bareValue word).map fun v => (v, cs.drop word.length)

end FactViews.Toml
