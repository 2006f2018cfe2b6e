import FactViews.Document
import FactViews.Text.Basic
import FactViews.Text.Lowercase

/-! # Structural check of a document

`Document.violations` lists every way in which a document breaks the rules, in a fixed order:
facts, dimensions, keys shared by dimensions, foreign keys, measures. Names are compared without
regard to letter case. A document without violations is `Document.Valid`. -/

namespace FactViews
open Text

/-- The role a measure name must not have as well. -/
inductive ColumnRole where
  | grainColumn
  | foreignKey
deriving DecidableEq, Repr

/-- The written form of a role. -/
def ColumnRole.label : ColumnRole → String
  | .grainColumn => "grain column"
  | .foreignKey => "foreign key"

/-- One broken rule. -/
inductive Violation where
  /-- The document declares no facts. -/
  | noFacts
  /-- The document declares no dimensions. -/
  | noDimensions
  /-- A fact declares no grain. -/
  | missingGrain (fact : String)
  /-- A dimension declares no key. -/
  | missingKey (dimension : String)
  /-- A foreign key is no dimension's key and no grain column. -/
  | unresolvedForeignKey (fact foreignKey : String)
  /-- A foreign key is the key of several dimensions. -/
  | ambiguousForeignKey (fact foreignKey : String) (dimensions : List String)
  /-- Several dimensions declare the same key. -/
  | sharedKey (key : String) (dimensions : List String)
  /-- A measure is also a grain column or a foreign key. -/
  | measureRoleConflict (fact measure : String) (role : ColumnRole)
deriving DecidableEq, Repr

/-- The text shown for a violation. -/
def Violation.message : Violation → String
  | .noFacts => "no facts defined in model"
  | .noDimensions => "no dimensions defined in model"
  | .missingGrain fact => "fact '" ++ fact ++ "' has no grain defined"
  | .missingKey dimension => "dimension '" ++ dimension ++ "' has no key defined"
  | .unresolvedForeignKey fact foreignKey =>
    "foreign key '" ++ foreignKey ++ "' in fact '" ++ fact ++
      "' does not map to any dimension and is not part of fact grain"
  | .ambiguousForeignKey fact foreignKey dimensions =>
    "foreign key '" ++ foreignKey ++ "' in fact '" ++ fact ++
      "' maps to multiple dimensions: " ++ joinWith ", " dimensions
  | .sharedKey key dimensions =>
    "many-to-many detected: key '" ++ key ++ "' is used by multiple dimensions: " ++
      joinWith ", " dimensions
  | .measureRoleConflict fact measure role =>
    "fact '" ++ fact ++ "' measure '" ++ measure ++ "' is also a " ++ role.label

/-- The key of a dimension; an empty one counts as missing. -/
def DimensionSpec.usableKey (d : DimensionSpec) : Option String :=
  d.key.filter (· ≠ "")

namespace Document

/-- The lower-cased key and the name of every dimension that has a key. -/
def keyUses (d : Document) : List (String × String) :=
  d.dimensions.entries.filterMap fun e => e.2.usableKey.map fun k => (lowercase k, e.1)

/-- Names of the dimensions that use a lower-cased key. -/
def keyUsers (uses : List (String × String)) (key : String) : List String :=
  (uses.filter fun u => u.1 = key).map Prod.snd

/-- A document declares facts, each with a grain. -/
def factViolations (d : Document) : List Violation :=
  (if d.facts.isEmpty then [.noFacts] else []) ++
    (d.facts.entries.filter fun e => e.2.grain.isEmpty).map fun e => .missingGrain e.1

/-- A document declares dimensions, each with a key. -/
def dimensionViolations (d : Document) : List Violation :=
  (if d.dimensions.isEmpty then [.noDimensions] else []) ++
    (d.dimensions.entries.filter fun e => e.2.usableKey.isNone).map fun e => .missingKey e.1

/-- Adds a dimension to those that use a key; a new key goes last. -/
def addUse (groups : Catalog (List String)) (use : String × String) : Catalog (List String) :=
  groups.insert use.1 ((groups.find? use.1).getD [] ++ [use.2])

/-- The dimensions that use each key, with the keys in the order of their first use. -/
def keyGroups (uses : List (String × String)) : Catalog (List String) :=
  uses.foldl addUse .empty

/-- No key belongs to two dimensions; shared keys are listed in the order of their first use. -/
def sharedKeyViolations (d : Document) : List Violation :=
  ((keyGroups d.keyUses).entries.filter fun g => g.2.length > 1).map fun g => .sharedKey g.1 g.2

/-- The rule for one foreign key of a fact, given the uses of keys and the lower-cased grain. -/
def foreignKeyViolation? (uses : List (String × String)) (grain : List String)
    (fact foreignKey : String) : Option Violation :=
  let key := lowercase foreignKey
  match keyUsers uses key with
  | [] => if grain.contains key then none else some (.unresolvedForeignKey fact foreignKey)
  | [_] => none
  | names => some (.ambiguousForeignKey fact foreignKey names)

/-- A foreign key is the key of exactly one dimension, or of none if it is a grain column. -/
def foreignKeyViolations (d : Document) : List Violation :=
  let uses := d.keyUses
  d.facts.entries.flatMap fun e =>
    let grain := e.2.grain.map lowercase
    e.2.foreignKeys.filterMap (foreignKeyViolation? uses grain e.1)

/-- The rule for one measure of a fact, given the lower-cased grain and foreign keys. -/
def measureViolation? (grain foreignKeys : List String) (fact measure : String) :
    Option Violation :=
  let column := lowercase measure
  if grain.contains column then some (.measureRoleConflict fact measure .grainColumn)
  else if foreignKeys.contains column then some (.measureRoleConflict fact measure .foreignKey)
  else none

/-- A measure is neither a grain column nor a foreign key of its fact. -/
def measureViolations (d : Document) : List Violation :=
  d.facts.entries.flatMap fun e =>
    let grain := e.2.grain.map lowercase
    let foreignKeys := e.2.foreignKeys.map lowercase
    e.2.measures.filterMap (measureViolation? grain foreignKeys e.1)

/-- Every violation of a document. -/
def violations (d : Document) : List Violation :=
  d.factViolations ++ d.dimensionViolations ++ d.sharedKeyViolations ++ d.foreignKeyViolations ++
    d.measureViolations

/-- A document that breaks no rule. -/
def Valid (d : Document) : Prop := d.violations = []

instance (d : Document) : Decidable d.Valid := inferInstanceAs (Decidable (d.violations = []))

end Document
end FactViews
