import FactViews.Catalog
import FactViews.Text.Lowercase

/-! # Queries

A query begins as a `BaseQuery`, which selects the columns of a fact as they are declared, and
is promoted to a `FactQuery`, in which every column has a role. `Query` is either of the two. -/

namespace FactViews

/-- A selected expression and the name it is given. -/
structure SelectItem where
  expression : String
  label : String
deriving DecidableEq, Repr

/-- A column selected under its own name. -/
def SelectItem.column (name : String) : SelectItem := ⟨name, name⟩

/-- The kinds of join. -/
inductive JoinKind where
  | inner
  | left
  | right
  | full
deriving DecidableEq, Repr

/-- The words that name a join in a statement. -/
def JoinKind.keyword : JoinKind → String
  | .inner => "INNER"
  | .left => "LEFT"
  | .right => "RIGHT"
  | .full => "FULL OUTER"

/-- A join with a table on the equality of two columns. -/
structure Join where
  table : String
  left : String
  right : String
  kind : JoinKind := .left
deriving DecidableEq, Repr

/-- The join condition as plain text. -/
def Join.predicate (j : Join) : String := j.left ++ " = " ++ j.right

/-- The operators that aggregate a measure. -/
inductive Aggregate where
  | sum
  | count
  | avg
  | min
  | max
deriving DecidableEq, Repr, Inhabited

namespace Aggregate

/-- The word for an operator in a statement. -/
def keyword : Aggregate → String
  | .sum => "SUM"
  | .count => "COUNT"
  | .avg => "AVG"
  | .min => "MIN"
  | .max => "MAX"

/-- The operator with exactly the given lower-case name. -/
def ofName? : String → Option Aggregate
  | "sum" => some .sum
  | "count" => some .count
  | "avg" => some .avg
  | "min" => some .min
  | "max" => some .max
  | _ => none

/-- A name that is no operator's, in ASCII lower case. -/
structure Unknown where
  name : String
deriving DecidableEq, Repr

/-- The text shown for an unknown operator. -/
def Unknown.message (e : Unknown) : String := "unknown aggregation operator: " ++ e.name

/-- Reads an operator name; the case of ASCII letters does not matter. -/
def read (s : String) : Except Unknown Aggregate :=
  let name := Text.asciiLowercase s
  match ofName? name with
  | some op => .ok op
  | none => .error ⟨name⟩

end Aggregate

/-- An operator bound to a measure. -/
structure BoundMeasure where
  measure : String
  operator : Aggregate
deriving DecidableEq, Repr

/-- A query whose columns have no roles yet. -/
structure BaseQuery where
  select : List SelectItem := []
  fromTable : String := ""
  joins : List Join := []
  groupBy : List String := []
deriving DecidableEq, Repr, Inhabited

/-- A query whose columns are split into grain, foreign keys, other dimension columns and
measures. -/
structure FactQuery extends BaseQuery where
  grainColumns : List String := []
  foreignKeys : List String := []
  measures : List String := []
  dimensionColumns : List String := []
  aggregations : Catalog BoundMeasure := .empty
deriving DecidableEq, Repr, Inhabited

/-- The two kinds of query. -/
inductive QueryKind where
  | base
  | fact
deriving DecidableEq, Repr

/-- The written form of a kind of query. -/
def QueryKind.label : QueryKind → String
  | .base => "base query"
  | .fact => "fact query"

/-- A query before or after its promotion. -/
inductive Query where
  | base (query : BaseQuery)
  | fact (query : FactQuery)
deriving DecidableEq, Repr

namespace Query

/-- The kind of a query. -/
def kind : Query → QueryKind
  | .base _ => .base
  | .fact _ => .fact

/-- The table that a query reads. -/
def fromTable : Query → String
  | .base q => q.fromTable
  | .fact q => q.fromTable

end Query
end FactViews
