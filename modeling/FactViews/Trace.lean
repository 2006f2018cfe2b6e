/-! # Trace events

What a run reports about its own progress: a level, the part of the program that speaks, a
message and named values in a fixed order. -/

namespace FactViews.Trace

/-- How urgent an event is. -/
inductive Level where
  | debug
  | info
  | warn
deriving DecidableEq, Repr

/-- The written form of a level. -/
def Level.label : Level → String
  | .debug => "DEBUG"
  | .info => "INFO"
  | .warn => "WARN"

/-- One reported event. -/
structure Event where
  level : Level
  /-- The part of the program that speaks. -/
  target : String
  message : String
  /-- Named values, in the order in which they are written. -/
  fields : List (String × String)
deriving DecidableEq, Repr

end FactViews.Trace
