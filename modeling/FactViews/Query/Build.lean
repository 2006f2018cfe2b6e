import FactViews.Model
import FactViews.Query.Basic

/-! # The first query of a fact

A fact selects its grain, its foreign keys and its measures as they are, and groups by its
grain. A fact without a grain has no query. -/

namespace FactViews

/-- A fact that declares no grain. -/
structure EmptyGrain where
  fact : String
deriving DecidableEq, Repr

namespace EmptyGrain

/-- Why the fact is refused. -/
def reason : String := "fact has an empty grain"

/-- The text shown for a fact without a grain. -/
def message (e : EmptyGrain) : String :=
  "contract violation in fact '" ++ e.fact ++ "': " ++ reason

end EmptyGrain

/-- The columns of a fact in the order in which they are selected. -/
def Fact.columns (f : Fact) : List String := f.grain ++ f.foreignKeys ++ f.measures

/-- The query of one fact. -/
def Fact.toQuery (f : Fact) : Except EmptyGrain BaseQuery :=
  if f.grain.isEmpty then .error ⟨f.name⟩
  else
    .ok { select := f.columns.map SelectItem.column, fromTable := f.name, groupBy := f.grain }

/-- The queries of all facts of a model, up to the first fact that has none. -/
def Model.queries (m : Model) : Except EmptyGrain (List BaseQuery) :=
  m.facts.values.mapM Fact.toQuery

end FactViews
