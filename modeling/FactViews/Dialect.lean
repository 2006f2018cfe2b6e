import FactViews.Text.Basic
import FactViews.Text.Lowercase

/-! # SQL dialects

A dialect decides how identifiers are quoted, how long a view name may be and how a view is
created. It decides nothing else about a statement. -/

namespace FactViews
open Text

/-- The supported dialects. -/
inductive Dialect where
  | generic
  | postgres
  | duckdb
  | mysql
  | tsql
deriving DecidableEq, Repr, Inhabited

/-- How an identifier is written. -/
inductive Quoting where
  /-- As it is. -/
  | verbatim
  /-- Between two characters, of which the closing one is doubled inside. -/
  | enclosed (opening closing : Char)
deriving DecidableEq, Repr

/-- Doubles every occurrence of a character. -/
def Quoting.double (q : Char) : List Char → List Char
  | [] => []
  | c :: rest => if c = q then q :: q :: double q rest else c :: double q rest

/-- Writes an identifier. -/
def Quoting.write : Quoting → String → String
  | .verbatim, ident => ident
  | .enclosed opening closing, ident =>
    String.ofList (opening :: double closing ident.toList ++ [closing])

namespace Dialect

/-- The name of a dialect. -/
def name : Dialect → String
  | .generic => "generic"
  | .postgres => "postgres"
  | .duckdb => "duckdb"
  | .mysql => "mysql"
  | .tsql => "tsql"

/-- The dialect with exactly the given name. -/
def ofName? : String → Option Dialect
  | "generic" => some .generic
  | "postgres" => some .postgres
  | "duckdb" => some .duckdb
  | "mysql" => some .mysql
  | "tsql" => some .tsql
  | _ => none

/-- A name that is no dialect's, in ASCII lower case. -/
structure Unknown where
  name : String
deriving DecidableEq, Repr

/-- The text shown for an unknown dialect. -/
def Unknown.message (e : Unknown) : String := "unknown dialect: " ++ e.name

/-- Reads the name of a dialect. The case of ASCII letters does not matter, and two dialects
have a second name. -/
def read (s : String) : Except Unknown Dialect :=
  let name := asciiLowercase s
  match ofName? name with
  | some d => .ok d
  | none =>
    if name = "postgresql" then .ok .postgres
    else if name = "mssql" then .ok .tsql
    else .error ⟨name⟩

/-- How a dialect quotes identifiers. -/
def quoting : Dialect → Quoting
  | .generic => .verbatim
  | .postgres => .enclosed '"' '"'
  | .duckdb => .enclosed '"' '"'
  | .mysql => .enclosed '\x60' '\x60'
  | .tsql => .enclosed '[' ']'

/-- Writes one identifier. -/
def quote (d : Dialect) (ident : String) : String := d.quoting.write ident

/-- Writes a dotted name, each part on its own. -/
def quoteQualified (d : Dialect) (name : String) : String :=
  joinWith "." ((splitOn '.' name).map d.quote)

/-- Whether a view can be replaced by creating it anew. -/
def hasCreateOrReplace : Dialect → Bool
  | .tsql => false
  | _ => true

/-- The words that begin a view. -/
def viewKeyword (d : Dialect) : String :=
  if d.hasCreateOrReplace then "CREATE OR REPLACE VIEW" else "CREATE OR ALTER VIEW"

/-- The greatest length of an identifier, where there is one. -/
def maxLength? : Dialect → Option Nat
  | .generic => none
  | .postgres => some 63
  | .duckdb => none
  | .mysql => some 64
  | .tsql => some 128

/-- The length of an identifier: in bytes of UTF-8 for Postgres, in characters elsewhere. -/
def length (d : Dialect) (ident : String) : Nat :=
  match d with
  | .postgres => ident.utf8ByteSize
  | _ => ident.length

end Dialect
end FactViews
