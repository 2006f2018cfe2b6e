import FactViews.Text.Basic

/-! # Path text

Paths are texts with `/` between their parts. Empty parts and parts that are a single dot do not
count, except for a dot at the very beginning of a relative path. The operations here look at
the text only. -/

namespace FactViews.Path
open Text

/-- Whether a path starts at the root. -/
def isAbsolute (path : String) : Bool := path.toList.head? = some '/'

/-- The beginnings of a path that end with a part that counts, shortest first, as lists of
parts. The parts already passed are given; a dot counts only if there are none. -/
def countedFrom (done : List String) : List String → List (List String)
  | [] => []
  | part :: rest =>
    let here := done ++ [part]
    if part = "" || (part = "." && !done.isEmpty) then countedFrom here rest
    else here :: countedFrom here rest

/-- The beginnings of a path that end with a part that counts, shortest first. -/
def counted (path : String) : List (List String) :=
  match splitOn '/' path with
  | first :: rest => if first = "" then countedFrom [first] rest else countedFrom [] (first :: rest)
  | [] => []

/-- What a part of a path stands for. -/
inductive Component where
  | root
  | current
  | parent
  | normal (name : String)
deriving DecidableEq, Repr

/-- What a part that counts stands for. -/
def Component.ofPart (part : String) : Component :=
  if part = "." then .current else if part = ".." then .parent else .normal part

/-- The root of an absolute path and the parts that count. -/
def components (path : String) : List Component :=
  (if isAbsolute path then [.root] else []) ++
    (counted path).filterMap fun parts => parts.getLast?.map .ofPart

/-- What is left of a path when all counted parts are removed. -/
def base (path : String) : String := if isAbsolute path then "/" else ""

/-- The parts of the proper ancestors of a path that have counted parts, nearest first. -/
def ancestors (path : String) : List (List String) := (counted path).reverse.drop 1

/-- The proper ancestors of a path, nearest first. -/
def parents (path : String) : List String :=
  if (counted path).isEmpty then [] else (ancestors path).map (joinWith "/") ++ [base path]

/-- The nearest proper ancestor of a path. -/
def parent? (path : String) : Option String := (parents path).head?

/-- The last part of a path, unless it is a dot or two dots. -/
def fileName? (path : String) : Option String :=
  match (counted path).getLast? with
  | none => none
  | some parts =>
    match parts.getLast? with
    | none => none
    | some name => if name = "." || name = ".." then none else some name

/-- The text after the last dot of the last part, if something stands before that dot. -/
def extension? (path : String) : Option String :=
  match fileName? path with
  | none => none
  | some name =>
    match (splitOn '.' name).reverse with
    | [] => none
    | [_] => none
    | ext :: stem => if stem = [""] then none else some ext

/-- A path inside a directory; an absolute path stands alone. -/
def join (directory path : String) : String :=
  if isAbsolute path || directory = "" then path
  else if directory.toList.getLast? = some '/' then directory ++ path
  else directory ++ "/" ++ path

end FactViews.Path
