import FactViews.Query.Basic
import FactViews.Text.Basic
import FactViews.Trace

/-! # Roles of columns

Promotion to a fact query gives every selected label one role. The grain is what the query
groups by. Of the other labels those ending in `_id` are foreign keys, those ending in `_date`
are temporal, and the rest are measures. -/

namespace FactViews
open Text

/-- Labels with this ending are foreign keys. -/
def foreignKeyEnding : String := "_id"

/-- Labels with this ending are temporal. -/
def temporalEnding : String := "_date"

namespace BaseQuery

/-- The labels outside the grain, each once, in order. -/
def openLabels (q : BaseQuery) : List String :=
  (firstOccurrences (q.select.map SelectItem.label)).filter (!q.groupBy.contains ·)

/-- The labels that are foreign keys. -/
def foreignKeyLabels (q : BaseQuery) : List String :=
  q.openLabels.filter (endsIn foreignKeyEnding)

/-- The labels that are temporal. -/
def temporalLabels (q : BaseQuery) : List String :=
  q.openLabels.filter fun l => !endsIn foreignKeyEnding l && endsIn temporalEnding l

/-- The labels that are measures. -/
def measureLabels (q : BaseQuery) : List String :=
  q.openLabels.filter fun l => !endsIn foreignKeyEnding l && !endsIn temporalEnding l

/-- The fact query in which every label has its role. -/
def promote (q : BaseQuery) : FactQuery where
  toBaseQuery := q
  grainColumns := q.groupBy
  foreignKeys := q.foreignKeyLabels
  measures := q.measureLabels
  dimensionColumns := q.foreignKeyLabels ++ q.temporalLabels

/-- What is reported when a query has been promoted. -/
def promotedEvent (q : BaseQuery) : Trace.Event where
  level := .debug
  target := "semview::passes::normalize"
  message := "normalized fact query"
  fields := [
    ("fact", q.fromTable),
    ("grain", decimal q.groupBy.length),
    ("foreign_keys", decimal q.foreignKeyLabels.length),
    ("temporal", decimal q.temporalLabels.length),
    ("measures", decimal q.measureLabels.length)]

end BaseQuery
end FactViews
