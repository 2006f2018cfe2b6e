import FactViews.Text.Alphanumeric

/-! # Variable references

A text may refer to environment variables, as `$NAME` or in braces. The text is cut into pieces
first, from left to right; then every reference is replaced by the value of its variable. Values
are taken as they are and not searched for further references. -/

namespace FactViews

/-- The environment variables, the latest setting last. Values are Unicode texts; a variable with
any other value cannot be read and counts as not set, so it is left out. -/
structure Environment where
  bindings : List (String × String) := []
deriving Repr, Inhabited

namespace Environment

/-- The latest value that was set for a variable. -/
def setting? (env : Environment) (name : String) : Option String :=
  (env.bindings.reverse.find? (·.1 = name)).map Prod.snd

/-- The variable that decides the value of a name: the name up to its first equals sign. -/
def variableOf (name : String) : String := String.ofList (name.toList.takeWhile (· ≠ '='))

/-- What follows a beginning of a text. -/
def after? (start cs : List Char) : Option String :=
  if start.isPrefixOf cs then some (String.ofList (cs.drop start.length)) else none

/-- The value of a name. A setting is kept as one text, with an equals sign between the variable
and its value, and a name stands for what follows it and an equals sign. So a name in which an
equals sign occurs goes on into the value. Names are not empty and hold no NUL. -/
def get? (env : Environment) (name : String) : Option String :=
  if variableOf name = "" || name.toList.contains '\x00' then none
  else
    match env.setting? (variableOf name), name.toList.dropWhile (· ≠ '=') with
    | none, _ => none
    | some value, [] => some value
    | some value, _ :: more => after? (more ++ ['=']) value.toList

end Environment

namespace Reference

/-- A piece of a text with references. -/
inductive Piece where
  /-- A character that stands for itself; also a dollar sign that begins no reference. -/
  | literal (c : Char)
  /-- A reference to a variable. -/
  | variable (name : String)
  /-- A reference in braces without its closing brace; it takes the rest of the text. -/
  | unclosed
deriving DecidableEq, Repr

/-- Characters of a name outside of braces. -/
def isNameChar (c : Char) : Bool := Text.isAlphanumeric c || c = '_'

/-- The pieces of a text. A name in braces goes up to the first closing brace; a name without
braces is as long as possible and not empty. -/
def pieces (cs : List Char) : List Piece :=
  match cs with
  | [] => []
  | '$' :: '\x7b' :: rest =>
    if rest.contains '\x7d' then
      .variable (String.ofList (rest.takeWhile (· ≠ '\x7d'))) ::
        pieces ((rest.dropWhile (· ≠ '\x7d')).drop 1)
    else [.unclosed]
  | '$' :: rest =>
    let name := rest.takeWhile isNameChar
    if name = [] then .literal '$' :: pieces rest
    else .variable (String.ofList name) :: pieces (rest.dropWhile isNameChar)
  | c :: rest => .literal c :: pieces rest
termination_by cs.length
decreasing_by
  · have := (List.dropWhile_sublist (· ≠ '\x7d') (l := rest)).length_le
    simp only [List.length_drop, List.length_cons]
    omega
  · simp
  · have := (List.dropWhile_sublist isNameChar (l := rest)).length_le
    simp only [List.length_cons]
    omega
  · simp

/-- Why references cannot be replaced. -/
inductive Fault where
  /-- A variable is not set. -/
  | missing (name : String)
  /-- A brace in the given text is not closed. -/
  | unclosed (text : String)
deriving DecidableEq, Repr

/-- Replaces the references among pieces, up to the first that cannot be replaced. -/
def substitute (env : Environment) (whole : String) : List Piece → Except Fault (List Char)
  | [] => .ok []
  | .literal c :: rest => (substitute env whole rest).map (c :: ·)
  | .variable name :: rest =>
    match env.get? name with
    | none => .error (.missing name)
    | some value => (substitute env whole rest).map (value.toList ++ ·)
  | .unclosed :: _ => .error (.unclosed whole)

/-- Replaces the references in a text. -/
def expand (env : Environment) (text : String) : Except Fault String :=
  (substitute env text (pieces text.toList)).map String.ofList

end Reference
end FactViews
