import FactViews.Catalog

/-! # Semantic models

A model holds the facts and dimensions that statements are compiled from. Unlike in a document,
every dimension has a key. Facts and dimensions are found by name and keep the order in which
their names were first added. -/

namespace FactViews

/-- A fact: its name is also the table it reads. Column order is significant everywhere. -/
structure Fact where
  name : String
  /-- The columns that identify one row. -/
  grain : List String := []
  measures : List String := []
  /-- The columns that refer to the key of a dimension. -/
  foreignKeys : List String := []
deriving DecidableEq, Repr, Inhabited

/-- A dimension: its name is also the table that is joined. -/
structure Dimension where
  name : String
  key : String
  grain : List String := []
  attributes : List String := []
deriving DecidableEq, Repr, Inhabited

/-- The key column together with its table. -/
def Dimension.qualifiedKey (d : Dimension) : String := d.name ++ "." ++ d.key

/-- Whether a column is part of the grain of a fact. -/
def Fact.isGrain (f : Fact) (column : String) : Bool := f.grain.contains column

/-- Facts and dimensions under their names. -/
structure Model where
  facts : Catalog Fact := .empty
  dimensions : Catalog Dimension := .empty
deriving DecidableEq, Repr, Inhabited

namespace Model

/-- The model without facts and dimensions. -/
def empty : Model := {}

/-- Adds a fact under its name. -/
def addFact (m : Model) (f : Fact) : Model := { m with facts := m.facts.insert f.name f }

/-- Adds a dimension under its name. -/
def addDimension (m : Model) (d : Dimension) : Model :=
  { m with dimensions := m.dimensions.insert d.name d }

/-- The dimensions with exactly the given key, in order. -/
def dimensionsKeyedBy (m : Model) (key : String) : List Dimension :=
  m.dimensions.values.filter (·.key = key)

end Model
end FactViews
