import FactViews.Model
import FactViews.Query.Basic
import FactViews.Text.Basic
import FactViews.Trace

/-! # Joins with dimensions

Every foreign key of a fact query is looked up among the dimension keys of a model. One match
gives a left join and the qualified key column; no match is allowed for a grain column only,
which then contributes nothing; several matches are refused. -/

namespace FactViews

/-- Why a foreign key has no dimension. -/
inductive KeyFault where
  /-- No dimension has this key. -/
  | unresolved
  /-- The named dimensions, in order, all have this key. -/
  | shared (dimensions : List String)
deriving DecidableEq, Repr

/-- The text shown for a fault of a key. -/
def KeyFault.message : KeyFault → String
  | .unresolved => "unresolved: no dimension declares this key"
  | .shared dimensions => "multiple dimensions share this key: " ++ Text.joinWith ", " dimensions

/-- A foreign key of a fact that cannot be bound. -/
structure UnboundKey where
  fact : String
  foreignKey : String
  fault : KeyFault
deriving DecidableEq, Repr

/-- The text shown for a foreign key that cannot be bound. -/
def UnboundKey.message (e : UnboundKey) : String :=
  "ambiguous foreign key binding in fact '" ++ e.fact ++ "' for '" ++ e.foreignKey ++ "': " ++
    e.fault.message

/-- What a foreign key is bound to. -/
inductive KeyBinding where
  /-- A grain column without a dimension of its own. -/
  | degenerate
  /-- The one dimension with this key. -/
  | dimension (d : Dimension)
deriving DecidableEq, Repr

namespace FactQuery

/-- The binding of one foreign key. -/
def bindKey (m : Model) (q : FactQuery) (foreignKey : String) : Except KeyFault KeyBinding :=
  match m.dimensionsKeyedBy foreignKey with
  | [] => if q.grainColumns.contains foreignKey then .ok .degenerate else .error .unresolved
  | [d] => .ok (.dimension d)
  | ds => .error (.shared (ds.map Dimension.name))

/-- The join of the table of a query with a dimension on a foreign key. -/
def joinWithDimension (q : FactQuery) (foreignKey : String) (d : Dimension) : Join where
  table := d.name
  left := q.fromTable ++ "." ++ foreignKey
  right := d.qualifiedKey

/-- The foreign keys that have a dimension, each with its dimension, up to the first key that
cannot be bound. -/
def keyDimensions (m : Model) (q : FactQuery) :
    List String → Except UnboundKey (List (String × Dimension))
  | [] => .ok []
  | k :: ks =>
    match q.bindKey m k with
    | .error fault => .error ⟨q.fromTable, k, fault⟩
    | .ok .degenerate => keyDimensions m q ks
    | .ok (.dimension d) =>
      match keyDimensions m q ks with
      | .error e => .error e
      | .ok rest => .ok ((k, d) :: rest)

/-- Joins every foreign key with its dimension. Joins and dimension columns come from the
foreign keys alone: earlier ones are dropped. -/
def bindJoins (m : Model) (q : FactQuery) : Except UnboundKey FactQuery :=
  match q.keyDimensions m q.foreignKeys with
  | .error e => .error e
  | .ok bound =>
    .ok { q with
      joins := bound.map fun b => q.joinWithDimension b.1 b.2
      dimensionColumns := bound.map fun b => b.2.qualifiedKey }

/-- What is reported for the foreign keys up to the first one that cannot be bound. -/
def degenerateEvents (m : Model) (q : FactQuery) : List String → List Trace.Event
  | [] => []
  | k :: ks =>
    match q.bindKey m k with
    | .error _ => []
    | .ok .degenerate =>
      { level := .debug
        target := "semview::passes::bind_joins"
        message := "skipping degenerate key"
        fields := [("fact", q.fromTable), ("key", k)] } :: degenerateEvents m q ks
    | .ok (.dimension _) => degenerateEvents m q ks

/-- What is reported when joins have been bound. -/
def joinedEvent (q : FactQuery) : Trace.Event where
  level := .debug
  target := "semview::passes::bind_joins"
  message := "bound dimension joins"
  fields := [("fact", q.fromTable), ("joins", Text.decimal q.joins.length)]

/-- What binding the joins of a query reports. -/
def joinEvents (m : Model) (q : FactQuery) : List Trace.Event :=
  q.degenerateEvents m q.foreignKeys ++
    match q.bindJoins m with
    | .error _ => []
    | .ok q' => [q'.joinedEvent]

end FactQuery
end FactViews
