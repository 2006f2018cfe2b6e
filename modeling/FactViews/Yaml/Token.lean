/-! # Tokens of YAML text -/

namespace FactViews.Yaml

/-- The tokens of a document. Block collections are delimited by tokens that stand for a change
of indentation. -/
inductive Token where
  | documentStart
  | documentEnd
  /-- A directive that names the version of the format. -/
  | version (major minor : Nat)
  /-- A directive that declares a tag handle. -/
  | handle (name stem : String)
  | blockSequenceStart
  | blockMappingStart
  | blockEnd
  | flowSequenceStart
  | flowSequenceEnd
  | flowMappingStart
  | flowMappingEnd
  | blockEntry
  | flowEntry
  | key
  | value
  /-- A repetition of an anchored value. -/
  | reference (name : String)
  | anchor (name : String)
  | tag (handle suffix : String)
  /-- A text; a plain one stands without quotes and is no block text. -/
  | scalar (text : String) (plain : Bool)
deriving DecidableEq, Repr

end FactViews.Yaml
