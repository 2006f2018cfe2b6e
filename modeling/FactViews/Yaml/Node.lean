import FactViews.Yaml.Event
import FactViews.Yaml.Token.Scanner
import Std.Data.HashMap

/-! # From events to values

A graph is the value of a document together with its anchored parts. A repetition refers to an
anchored part by the position of its event.

Anchors are numbered: an anchor gets the count of the distinct anchor names before it. So a name
that is defined anew takes the number of the next new name, and a number stands for the last part
that got it. -/

namespace FactViews.Yaml

/-- A value. -/
inductive Node where
  | scalar (tag : Option String) (text : String) (plain : Bool)
  | sequence (items : List Node)
  | mapping (entries : List (Node × Node))
  /-- The anchored part at a position. -/
  | reference (position : Nat)
deriving Repr, Inhabited

/-- A value and its anchored parts. -/
structure Graph where
  /-- The value; none for a text without a document. -/
  root : Option Node
  /-- The anchored parts by the positions of their events. -/
  parts : Std.HashMap Nat Node
  /-- The number of events. -/
  size : Nat

/-- The numbers of anchor names and the positions that numbers stand for. -/
structure Anchors where
  numbers : Std.HashMap String Nat := ∅
  positions : Std.HashMap Nat Nat := ∅

/-- Numbers an anchor at a position. -/
def Anchors.define (a : Anchors) (name : String) (position : Nat) : Anchors :=
  let number := a.numbers.size
  ⟨a.numbers.insert name number, a.positions.insert number position⟩

/-- The anchor that a node event carries. -/
def Event.anchor? : Event → Option String
  | .scalar props _ _ => props.anchor
  | .sequenceStart props => props.anchor
  | .mappingStart props => props.anchor
  | _ => none

/-- The numbers to which the repetitions of an event sequence refer, in order, and the anchors. A
repetition needs an anchor before it. -/
def numberReferences (a : Anchors) (position : Nat) :
    List Event → Except Fault (List Nat × Anchors)
  | [] => .ok ([], a)
  | .reference name :: es =>
    match a.numbers[name]? with
    | none => .error .unknownAnchor
    | some number =>
      match numberReferences a (position + 1) es with
      | .error e => .error e
      | .ok (numbers, a') => .ok (number :: numbers, a')
  | e :: es =>
    match e.anchor? with
    | none => numberReferences a (position + 1) es
    | some name => numberReferences (a.define name position) (position + 1) es

/-- A collection whose end has not come yet, with the position of its event if it is anchored and
its parts, the last first. -/
structure OpenCollection where
  isMapping : Bool
  position : Option Nat
  items : List Node

/-- Pairs keys with values. -/
def pairUp : List Node → List (Node × Node)
  | k :: v :: rest => (k, v) :: pairUp rest
  | _ => []

/-- The node of a collection. -/
def OpenCollection.close (o : OpenCollection) : Node :=
  if o.isMapping then .mapping (pairUp o.items.reverse) else .sequence o.items.reverse

/-- What has been composed: complete values, open collections and anchored parts. -/
structure Composition where
  root : Option Node := none
  openOnes : List OpenCollection := []
  parts : Std.HashMap Nat Node := ∅

namespace Composition

/-- Adds a complete value to the innermost open collection. -/
def add (c : Composition) (position : Option Nat) (n : Node) : Composition :=
  let parts := match position with
    | some p => c.parts.insert p n
    | none => c.parts
  match c.openOnes with
  | [] => { c with root := some n, parts }
  | o :: os => { c with openOnes := { o with items := n :: o.items } :: os, parts }

/-- Begins a collection. -/
def start (c : Composition) (isMapping : Bool) (position : Option Nat) : Composition :=
  { c with openOnes := ⟨isMapping, position, []⟩ :: c.openOnes }

/-- Ends the innermost collection. -/
def finish (c : Composition) : Composition :=
  match c.openOnes with
  | [] => c
  | o :: os => { c with openOnes := os }.add o.position o.close

/-- Composes events; the positions to which the repetitions refer are given in order. -/
def run (c : Composition) (position : Nat) (targets : List Nat) : List Event → Composition
  | [] => c
  | e :: es =>
    let here := e.anchor?.map fun _ => position
    match e with
    | .scalar props text plain =>
      (c.add here (.scalar props.tag text plain)).run (position + 1) targets es
    | .sequenceStart _ => (c.start false here).run (position + 1) targets es
    | .mappingStart _ => (c.start true here).run (position + 1) targets es
    | .sequenceEnd => c.finish.run (position + 1) targets es
    | .mappingEnd => c.finish.run (position + 1) targets es
    | .reference _ =>
      (c.add none (.reference (targets.headD 0))).run (position + 1) (targets.drop 1) es

end Composition

/-- The graph of an event sequence. -/
def Graph.ofEvents (es : List Event) : Except Fault Graph :=
  match numberReferences {} 0 es with
  | .error e => .error e
  | .ok (numbers, a) =>
    let targets := numbers.map fun n => a.positions.getD n 0
    let c := Composition.run {} 0 targets es
    .ok ⟨c.root, c.parts, es.length⟩

/-- Reads a text. -/
def Graph.ofText (text : String) : Except Fault Graph :=
  match tokens text with
  | .error e => .error e
  | .ok ts =>
    match events ts with
    | .error e => .error e
    | .ok es => Graph.ofEvents es

end FactViews.Yaml
