import FactViews.Toml.Value

/-! # Tables under construction

While a text is read, a table remembers how it came about, because that decides whether it may be
extended: a table that was only mentioned as part of a longer header may still get its own header,
a table made by dotted keys may be extended by dotted keys, and all others are complete. -/

namespace FactViews.Toml

/-- How a table came about. -/
inductive Origin where
  /-- As part of a longer header. -/
  | mentioned
  /-- By dotted keys. -/
  | dotted
  /-- By its own header, or as the whole text. -/
  | declared
deriving DecidableEq, Repr

/-- What stands under a key of a table under construction. -/
inductive Item where
  /-- A complete value. -/
  | value (v : Value)
  | table (origin : Origin) (entries : List (String × Item))
  /-- The tables of a repeated header, the last first. -/
  | tables (reversed : List (List (String × Item)))
deriving Inhabited

/-- The entries of a table under construction. -/
abbrev Entries := List (String × Item)

namespace Entries

/-- What stands under a key. -/
def find? (es : Entries) (key : String) : Option Item :=
  (List.find? (·.1 = key) es).map Prod.snd

/-- Puts something under a key. -/
def put (es : Entries) (key : String) (item : Item) : Entries :=
  if es.any (·.1 = key) then es.map fun e => if e.1 = key then (key, item) else e
  else es ++ [(key, item)]

/-- Changes the table that a path of keys leads to. Missing tables are made. A path of a dotted
key must not lead through a table with its own header. -/
def change (dotted : Bool) (f : Origin → Entries → Except Fault Entries) (origin : Origin)
    (es : Entries) : List String → Except Fault Entries
  | [] => f origin es
  | key :: path =>
    match find? es key with
    | none =>
      let origin := if dotted then .dotted else .mentioned
      (change dotted f origin [] path).map fun inner => put es key (.table origin inner)
    | some (.value _) => .error .notTable
    | some (.table origin inner) =>
      if dotted && origin = .declared then .error .duplicateKey
      else (change dotted f origin inner path).map fun inner => put es key (.table origin inner)
    | some (.tables []) => .error .notTable
    | some (.tables (last :: before)) =>
      (change dotted f .declared last path).map fun last => put es key (.tables (last :: before))

/-- Adds a value under a key that must be new. Dotted keys add to tables made by dotted keys only,
and plain keys to the others only. -/
def addNew (dotted : Bool) (key : String) (v : Value) (origin : Origin) (es : Entries) :
    Except Fault Entries :=
  if dotted != (origin = .dotted : Bool) || es.any (·.1 = key) then .error .duplicateKey
  else .ok (put es key (.value v))

/-- Adds a value under a key with parts. -/
def addValue (origin : Origin) (es : Entries) (key : List String) (v : Value) :
    Except Fault Entries :=
  match key.getLast? with
  | none => .error .badKey
  | some last =>
    let path := key.dropLast
    let dotted := !path.isEmpty
    change dotted (addNew dotted last v) origin es path

/-- Begins a table with its own header. -/
def declare (es : Entries) (key : List String) : Except Fault Entries :=
  match key.getLast? with
  | none => .error .badKey
  | some last =>
    let start (_ : Origin) (es : Entries) : Except Fault Entries :=
      match find? es last with
      | none => .ok (put es last (.table .declared []))
      | some (.table .mentioned inner) => .ok (put es last (.table .declared inner))
      | some _ => .error .duplicateKey
    change false start .declared es key.dropLast

/-- Begins another table under a repeated header. -/
def declareNext (es : Entries) (key : List String) : Except Fault Entries :=
  match key.getLast? with
  | none => .error .badKey
  | some last =>
    let start (_ : Origin) (es : Entries) : Except Fault Entries :=
      match find? es last with
      | none => .ok (put es last (.tables [[]]))
      | some (.tables before) => .ok (put es last (.tables ([] :: before)))
      | some _ => .error .duplicateKey
    change false start .declared es key.dropLast

/-- Adds a value to the table under the current header. -/
def addUnder (es : Entries) (header key : List String) (v : Value) : Except Fault Entries :=
  change false (fun origin inner => addValue origin inner key v) .declared es header

end Entries

mutual

/-- The complete value of an item. -/
def Item.complete : Item → Value
  | .value v => v
  | .table _ entries => .table (completeEntries entries)
  | .tables reversed => .array (completeTables reversed).reverse

/-- The complete values of entries. -/
def completeEntries : List (String × Item) → List (String × Value)
  | [] => []
  | (k, i) :: rest => (k, i.complete) :: completeEntries rest

/-- The complete values of tables. -/
def completeTables : List (List (String × Item)) → List Value
  | [] => []
  | es :: rest => .table (completeEntries es) :: completeTables rest

end

end FactViews.Toml
