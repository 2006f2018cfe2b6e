import FactViews.Document
import FactViews.Model
import FactViews.Text.Basic
import FactViews.Trace

/-! # From documents to models

`Document.toModel` copies a document into a model, one declaration after another: the facts first,
then the dimensions. It fails only on a dimension without a key, and then names the first one. -/

namespace FactViews

/-- A dimension that declares no key cannot be part of a model. -/
structure KeylessDimension where
  name : String
deriving DecidableEq, Repr

/-- The text shown for a dimension without a key. -/
def KeylessDimension.message (e : KeylessDimension) : String :=
  "contract violation: dimension '" ++ e.name ++ "' has no key"

/-- The fact that a document declares under a name. -/
def FactSpec.toFact (name : String) (s : FactSpec) : Fact :=
  { name, grain := s.grain, measures := s.measures, foreignKeys := s.foreignKeys }

/-- The dimension that a document declares under a name. Its key must be there and not empty. -/
def DimensionSpec.toDimension (name : String) (s : DimensionSpec) :
    Except KeylessDimension Dimension :=
  match s.key with
  | none => .error ⟨name⟩
  | some key =>
    if key = "" then .error ⟨name⟩
    else .ok { name, key, grain := s.grain, attributes := s.attributes }

namespace Model

/-- The model with a declared fact under its name. -/
def lowerFact (m : Model) (e : String × FactSpec) : Model :=
  { m with facts := m.facts.insert e.1 (e.2.toFact e.1) }

/-- The model with declared dimensions under their names, up to the first one without a key. -/
def lowerDimensions (m : Model) : List (String × DimensionSpec) → Except KeylessDimension Model
  | [] => .ok m
  | e :: es =>
    match e.2.toDimension e.1 with
    | .error err => .error err
    | .ok dim => lowerDimensions { m with dimensions := m.dimensions.insert e.1 dim } es

end Model

/-- The model of a document. -/
def Document.toModel (d : Document) : Except KeylessDimension Model :=
  (d.facts.entries.foldl Model.lowerFact .empty).lowerDimensions d.dimensions.entries

/-- What is reported when a document has become a model. -/
def Model.loweredEvent (m : Model) : Trace.Event where
  level := .debug
  target := "semview::lowering"
  message := "lowered model document"
  fields := [("facts", Text.decimal m.facts.size), ("dimensions", Text.decimal m.dimensions.size)]

end FactViews
