import FactViews.Document
import FactViews.Text.Basic
import FactViews.Yaml.Node

/-! # Reading documents

A document is a mapping with the fields `facts` and `dimensions`, each a mapping from names to
mappings of column lists. Names and columns are texts, quoted or not. Unknown fields are passed
over; a known field must not occur twice. A list or mapping whose value is left out is empty. -/

namespace FactViews
open Yaml

namespace Document.Reader

/-- Reading counts how many repetitions it has followed. -/
abbrev Read := StateT Nat (Except Fault)

/-- The number of repetitions that may be followed for each event. -/
def aliasLimit : Nat := 100

/-- The value that a node stands for. -/
def resolve (g : Graph) : Node → Read Node
  | .reference position => do
    let followed ← get
    if aliasLimit * g.size < followed + 1 then throw .tooManyAliases
    set (followed + 1)
    match g.parts[position]? with
    | some part => pure part
    | none => throw .unknownAnchor
  | node => pure node

/-- Reads a text. -/
def text (g : Graph) (n : Node) : Read String := do
  match ← resolve g n with
  | .scalar _ text _ => pure text
  | _ => throw .wrongShape

/-- Reads a list of texts. -/
def texts (g : Graph) (n : Node) : Read (List String) := do
  match ← resolve g n with
  | .sequence items => items.mapM (text g)
  | .scalar _ "" true => pure []
  | _ => throw .wrongShape

/-- Reads the entries of a mapping. -/
def entries (g : Graph) (n : Node) : Read (List (Node × Node)) := do
  match ← resolve g n with
  | .mapping entries => pure entries
  | .scalar _ "" true => pure []
  | _ => throw .wrongShape

/-- Plain texts that stand for the absence of a value. -/
def isNullText (s : String) : Bool := s = "null" || s = "Null" || s = "NULL" || s = "~"

/-- The tag of absent values. -/
def nullTag : String := "tag:yaml.org,2002:null"

/-- Whether a value is present. A plain text can stand for absence; with a tag it does so only
under the tag of absent values, which allows nothing else. -/
def isPresent : Node → Except Fault Bool
  | .scalar none s true => .ok (s ≠ "" && !isNullText s)
  | .scalar (some tag) s true =>
    if tag = nullTag then if isNullText s then .ok false else .error .wrongShape
    else .ok true
  | _ => .ok true

/-- Reads a value that may be absent. -/
def optional (g : Graph) (read : Node → Read α) (n : Node) : Read (Option α) := do
  let n ← resolve g n
  if ← isPresent n then some <$> read n else pure none

/-- The fields of a record: each must occur at most once among those already read. -/
def once (name : String) (seen : List String) : Read (List String) :=
  if seen.contains name then throw (.duplicateField name) else pure (name :: seen)

/-- Reads the fields of a record one after another. A field is read by the function for its name;
fields without one are passed over. -/
def fields (g : Graph) (readers : List (String × (σ → Node → Read σ))) :
    List String → σ → List (Node × Node) → Read σ
  | _, acc, [] => pure acc
  | seen, acc, (k, v) :: rest => do
    let name ← text g k
    match readers.find? (·.1 = name) with
    | none => fields g readers seen acc rest
    | some (_, read) => do
      let seen ← once name seen
      let acc ← read acc v
      fields g readers seen acc rest

/-- Reads the columns of a fact. -/
def factSpec (g : Graph) (n : Node) : Read FactSpec := do
  fields g [
    ("grain", fun (s : FactSpec) v => do return { s with grain := ← texts g v }),
    ("measures", fun (s : FactSpec) v => do return { s with measures := ← texts g v }),
    ("foreign_keys", fun (s : FactSpec) v => do return { s with foreignKeys := ← texts g v })]
    [] {} (← entries g n)

/-- Reads the columns of a dimension. -/
def dimensionSpec (g : Graph) (n : Node) : Read DimensionSpec := do
  fields g [
    ("key", fun (s : DimensionSpec) v => do return { s with key := ← optional g (text g) v }),
    ("grain", fun (s : DimensionSpec) v => do return { s with grain := ← texts g v }),
    ("attributes", fun (s : DimensionSpec) v => do return { s with attributes := ← texts g v })]
    [] {} (← entries g n)

/-- Reads named values; a repeated name replaces the earlier value. -/
def named (g : Graph) (read : Node → Read α) : Catalog α → List (Node × Node) → Read (Catalog α)
  | acc, [] => pure acc
  | acc, (k, v) :: rest => do
    let name ← text g k
    let value ← read v
    named g read (acc.insert name value) rest

/-- Reads a document. -/
def document (g : Graph) (n : Node) : Read Document := do
  fields g [
    ("facts", fun (s : Document) v => do
      return { s with facts := ← named g (factSpec g) .empty (← entries g v) }),
    ("dimensions", fun (s : Document) v => do
      return { s with dimensions := ← named g (dimensionSpec g) .empty (← entries g v) })]
    [] {} (← entries g n)

end Document.Reader

/-- Why a model text gives no document. -/
inductive TextError where
  /-- The text holds nothing, or an absent value. -/
  | empty
  /-- The text is not YAML, or not of the shape of a document. -/
  | yaml (fault : Fault)
deriving DecidableEq, Repr

/-- Reads the document in a model text. -/
def Document.read (text : String) : Except TextError Document :=
  if Text.trim text = "" then .error .empty
  else
    match Graph.ofText text with
    | .error fault => .error (.yaml fault)
    | .ok g =>
      match g.root with
      | none => .error .empty
      | some root =>
        match (Reader.optional g (Reader.document g) root).run 0 with
        | .error fault => .error (.yaml fault)
        | .ok (none, _) => .error .empty
        | .ok (some d, _) => .ok d

end FactViews
