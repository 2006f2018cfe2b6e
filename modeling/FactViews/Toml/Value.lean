/-! # TOML values

The values of a settings file, and the faults for which a text is no settings file. -/

namespace FactViews.Toml

/-- A value. A number is read as far as its form tells that it is one; whether it can be
represented matters only where the number is looked at. -/
inductive Value where
  | string (text : String)
  | boolean (b : Bool)
  /-- An integer; none if its digits stand for no integer of the supported range. -/
  | integer (value : Option Int)
  /-- A number with a fraction or an exponent, or a special number, as it is written, and whether
  it is small enough. -/
  | float (text : String) (fits : Bool)
  /-- A date, a time of day or both, as it is written. -/
  | datetime (text : String)
  | array (items : List Value)
  | table (entries : List (String × Value))
deriving Repr, Inhabited

/-- Why a text cannot be read. -/
inductive Fault where
  /-- A character that must not occur here. -/
  | unexpected
  /-- A text without its end. -/
  | unclosedString
  /-- An escape that stands for no character. -/
  | badEscape
  /-- A missing or malformed key. -/
  | badKey
  /-- A missing or malformed value. -/
  | badValue
  /-- A number outside of the supported range. -/
  | overflow
  /-- A key or table that is defined twice. -/
  | duplicateKey
  /-- A value that is no table is used as one. -/
  | notTable
  /-- Too many nested values. -/
  | tooDeep
  /-- A value of another type than the expected one. -/
  | wrongType
deriving DecidableEq, Repr

/-- The text shown for a fault. -/
def Fault.message : Fault → String
  | .unexpected => "unexpected character"
  | .unclosedString => "invalid string"
  | .badEscape => "invalid escape sequence"
  | .badKey => "invalid key"
  | .badValue => "invalid value"
  | .overflow => "number overflowed"
  | .duplicateKey => "duplicate key"
  | .notTable => "cannot extend value with a dotted key"
  | .tooDeep => "cannot recurse further; max recursion depth met"
  | .wrongType => "invalid type"

mutual

/-- Looks at a value and all values in it: every number must be representable. -/
def Value.inspect : Value → Except Fault Unit
  | .integer none => .error .overflow
  | .float _ false => .error .overflow
  | .array items => inspectItems items
  | .table entries => inspectEntries entries
  | _ => .ok ()

/-- Looks at the items of an array. -/
def inspectItems : List Value → Except Fault Unit
  | [] => .ok ()
  | v :: rest =>
    match v.inspect with
    | .error e => .error e
    | .ok () => inspectItems rest

/-- Looks at the values of a table. -/
def inspectEntries : List (String × Value) → Except Fault Unit
  | [] => .ok ()
  | (_, v) :: rest =>
    match v.inspect with
    | .error e => .error e
    | .ok () => inspectEntries rest

end

end FactViews.Toml
