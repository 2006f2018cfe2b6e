import FactViews.Catalog

/-! # Model documents

A document is what a model file declares, before any check: facts and dimensions under their
names, with column lists that may be empty and dimension keys that may be missing. -/

namespace FactViews

/-- The declared columns of a fact. -/
structure FactSpec where
  grain : List String := []
  measures : List String := []
  foreignKeys : List String := []
deriving DecidableEq, Repr, Inhabited

/-- The declared columns of a dimension. -/
structure DimensionSpec where
  key : Option String := none
  grain : List String := []
  attributes : List String := []
deriving DecidableEq, Repr, Inhabited

/-- A model file's declarations, in the order of the file. -/
structure Document where
  facts : Catalog FactSpec := .empty
  dimensions : Catalog DimensionSpec := .empty
deriving DecidableEq, Repr, Inhabited

end FactViews
