/-! # Faults of YAML text

The reasons why a text is no YAML document, or not one of the expected shape. -/

namespace FactViews.Yaml

/-- Why a text cannot be read. -/
inductive Fault where
  /-- A character that must not occur in a document. -/
  | controlCharacter
  /-- A character that begins no token. -/
  | strayCharacter
  /-- A key without its colon. -/
  | missingColon
  /-- A list entry where none can stand. -/
  | misplacedEntry
  /-- A key where none can stand. -/
  | misplacedKey
  /-- A value where none can stand. -/
  | misplacedValue
  /-- A colon inside a flow collection that neither ends a key nor belongs to a word. -/
  | misplacedColon
  /-- A tab where blanks indent. -/
  | tabIndentation
  /-- A document marker inside a quoted text. -/
  | documentMarker
  /-- A quoted text without its end. -/
  | unclosedQuote
  /-- An escape that stands for no character. -/
  | badEscape
  /-- A malformed first line of a block text. -/
  | badBlockHeader
  /-- A malformed directive. -/
  | badDirective
  /-- A malformed tag. -/
  | badTag
  /-- A tag whose handle was not declared. -/
  | undeclaredHandle
  /-- A malformed anchor or alias. -/
  | badAnchor
  /-- An alias without an anchor. -/
  | unknownAnchor
  /-- A place where a value must stand and none does. -/
  | missingNode
  /-- A block list with something other than an entry. -/
  | missingEntry
  /-- A block mapping with something other than a key. -/
  | missingKey
  /-- A flow collection without a comma or its end. -/
  | missingComma
  /-- A directive without a document. -/
  | missingDocument
  /-- A second document. -/
  | extraDocument
  /-- A value of another shape than the expected one. -/
  | wrongShape
  /-- A field that occurs twice. -/
  | duplicateField (name : String)
  /-- Aliases that repeat the document too often. -/
  | tooManyAliases
  /-- A step limit was reached. -/
  | stepLimit
deriving DecidableEq, Repr

/-- The text shown for a fault. -/
def Fault.message : Fault → String
  | .controlCharacter => "control characters are not allowed"
  | .strayCharacter => "found character that cannot start any token"
  | .missingColon => "could not find expected ':'"
  | .misplacedEntry => "block sequence entries are not allowed in this context"
  | .misplacedKey => "mapping keys are not allowed in this context"
  | .misplacedValue => "mapping values are not allowed in this context"
  | .misplacedColon => "found unexpected ':'"
  | .tabIndentation => "found a tab character where an indentation space is expected"
  | .documentMarker => "found unexpected document indicator"
  | .unclosedQuote => "found unexpected end of stream"
  | .badEscape => "found unknown escape character"
  | .badBlockHeader => "did not find expected comment or line break"
  | .badDirective => "found malformed directive"
  | .badTag => "found malformed tag"
  | .undeclaredHandle => "found undefined tag handle"
  | .badAnchor => "did not find expected alphabetic or numeric character"
  | .unknownAnchor => "unknown anchor"
  | .missingNode => "did not find expected node content"
  | .missingEntry => "did not find expected '-' indicator"
  | .missingKey => "did not find expected key"
  | .missingComma => "did not find expected ',' or closing bracket"
  | .missingDocument => "did not find expected document start"
  | .extraDocument => "deserializing from YAML containing more than one document is not supported"
  | .wrongShape => "invalid type"
  | .duplicateField name => "duplicate field '" ++ name ++ "'"
  | .tooManyAliases => "repetition limit exceeded"
  | .stepLimit => "recursion limit exceeded"

end FactViews.Yaml
