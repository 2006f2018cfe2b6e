import FactViews.Yaml.Fault
import FactViews.Yaml.Token

/-! # From tokens to events

Events are the pieces of a value in the order of the text: texts, repetitions, and the beginnings
and ends of collections. They are derived by a stack of expectations: every step takes the
topmost expectation, looks at the next token, and may produce an event and further
expectations. -/

namespace FactViews.Yaml

/-- What is attached to a value. -/
structure Properties where
  anchor : Option String := none
  tag : Option String := none
deriving DecidableEq, Repr

/-- A piece of a value. -/
inductive Event where
  /-- A text; a plain one stands without quotes and is no block text. -/
  | scalar (props : Properties) (text : String) (plain : Bool)
  | sequenceStart (props : Properties)
  | sequenceEnd
  | mappingStart (props : Properties)
  | mappingEnd
  /-- A repetition of the value with an anchor. -/
  | reference (name : String)
deriving DecidableEq, Repr

/-- The empty text that stands for a value left out. -/
def Event.omitted : Event := .scalar {} "" true

/-- What must come next. -/
inductive Expectation where
  /-- A value of any kind; block collections, and block lists at the indentation of the
  surrounding mapping, only where allowed. -/
  | node (block indentless : Bool)
  /-- Another entry of a block list, or its end. -/
  | blockEntry
  /-- Another entry of a block list that ends without a token. -/
  | indentlessEntry
  /-- Another key of a block mapping, or its end. -/
  | blockKey
  /-- The value after a key of a block mapping. -/
  | blockValue
  /-- Another entry of a flow list, or its end. -/
  | flowEntry (first : Bool)
  /-- The key of a single pair in a flow list. -/
  | pairKey
  /-- The value of a single pair in a flow list. -/
  | pairValue
  /-- The end of a single pair in a flow list. -/
  | pairEnd
  /-- Another key of a flow mapping, or its end. -/
  | flowKey (first : Bool)
  /-- The value after a key of a flow mapping. -/
  | flowValue
  /-- The value left out after a key of a flow mapping without a colon. -/
  | flowNoValue
deriving DecidableEq, Repr

/-- What is left of the tokens, what is expected of them, and the events so far. -/
structure Derivation where
  tokens : List Token
  expected : List Expectation
  events : Array Event := #[]

namespace Derivation

/-- Adds an event. -/
def emit (d : Derivation) (e : Event) : Derivation := { d with events := d.events.push e }

/-- Expects something before everything else that is expected. -/
def expect (d : Derivation) (e : Expectation) : Derivation :=
  { d with expected := e :: d.expected }

/-- Whether the next token is one of the given ones. -/
def atToken (d : Derivation) (ts : List Token) : Bool := d.tokens.head?.any ts.contains

/-- The texts of a tag: handles are replaced by what they were declared to stand for. -/
def resolveTag (handles : List (String × String)) (handle suffix : String) :
    Except Fault String :=
  if handle = "" then .ok suffix
  else
    match handles.find? (·.1 = handle) with
    | some h => .ok (h.2 ++ suffix)
    | none => .error .undeclaredHandle

/-- Reads an anchor and a tag, in either order. -/
def properties (handles : List (String × String)) :
    List Token → Except Fault (Properties × List Token)
  | .anchor a :: .tag h s :: ts =>
    (resolveTag handles h s).map fun t => ({ anchor := some a, tag := some t }, ts)
  | .anchor a :: ts => .ok ({ anchor := some a }, ts)
  | .tag h s :: .anchor a :: ts =>
    (resolveTag handles h s).map fun t => ({ anchor := some a, tag := some t }, ts)
  | .tag h s :: ts => (resolveTag handles h s).map fun t => ({ tag := some t }, ts)
  | ts => .ok ({}, ts)

/-- Reads a value, or the beginning of a collection. -/
def node (handles : List (String × String)) (block indentless : Bool) (d : Derivation) :
    Except Fault Derivation :=
  match d.tokens with
  | .reference name :: ts => .ok ({ d with tokens := ts }.emit (.reference name))
  | ts =>
    match properties handles ts with
    | .error e => .error e
    | .ok (props, ts) =>
      match ts with
      | .scalar text plain :: ts => .ok ({ d with tokens := ts }.emit (.scalar props text plain))
      | .flowSequenceStart :: ts =>
        .ok (({ d with tokens := ts }.emit (.sequenceStart props)).expect (.flowEntry true))
      | .flowMappingStart :: ts =>
        .ok (({ d with tokens := ts }.emit (.mappingStart props)).expect (.flowKey true))
      | t :: rest =>
        if t = .blockEntry && indentless then
          .ok (({ d with tokens := t :: rest }.emit (.sequenceStart props)).expect .indentlessEntry)
        else if t = .blockSequenceStart && block then
          .ok (({ d with tokens := rest }.emit (.sequenceStart props)).expect .blockEntry)
        else if t = .blockMappingStart && block then
          .ok (({ d with tokens := rest }.emit (.mappingStart props)).expect .blockKey)
        else if props = {} then .error .missingNode
        else .ok ({ d with tokens := t :: rest }.emit (.scalar props "" true))
      | [] =>
        if props = {} then .error .missingNode
        else .ok ({ d with tokens := [] }.emit (.scalar props "" true))

/-- Expects a value unless one of the given tokens comes next, in which case it was left out. -/
def nodeUnless (stops : List Token) (block indentless : Bool) (d : Derivation) : Derivation :=
  if d.atToken stops then d.emit .omitted else d.expect (.node block indentless)

/-- Another entry of a block list. -/
def blockEntry (d : Derivation) : Except Fault Derivation :=
  match d.tokens with
  | .blockEntry :: ts =>
    let d := { d with tokens := ts }.expect .blockEntry
    .ok (d.nodeUnless [.blockEntry, .blockEnd] true false)
  | .blockEnd :: ts => .ok ({ d with tokens := ts }.emit .sequenceEnd)
  | _ => .error .missingEntry

/-- Another entry of a block list that ends without a token. -/
def indentlessEntry (d : Derivation) : Derivation :=
  match d.tokens with
  | .blockEntry :: ts =>
    ({ d with tokens := ts }.expect .indentlessEntry).nodeUnless
      [.blockEntry, .key, .value, .blockEnd] true false
  | _ => d.emit .sequenceEnd

/-- Another key of a block mapping. -/
def blockKey (d : Derivation) : Except Fault Derivation :=
  match d.tokens with
  | .key :: ts =>
    let d := { d with tokens := ts }.expect .blockValue
    .ok (d.nodeUnless [.key, .value, .blockEnd] true true)
  | .blockEnd :: ts => .ok ({ d with tokens := ts }.emit .mappingEnd)
  | _ => .error .missingKey

/-- The value after a key of a block mapping. -/
def blockValue (d : Derivation) : Derivation :=
  match d.tokens with
  | .value :: ts =>
    ({ d with tokens := ts }.expect .blockKey).nodeUnless [.key, .value, .blockEnd] true true
  | _ => (d.expect .blockKey).emit .omitted

/-- The tokens from the next entry of a flow collection on; a comma must stand before any but the
first. -/
def afterComma (first : Bool) (closing : Token) : List Token → Except Fault (List Token)
  | [] => .error .missingComma
  | t :: ts =>
    if t = closing || first then .ok (t :: ts)
    else if t = .flowEntry then .ok ts
    else .error .missingComma

/-- Another entry of a flow list. -/
def flowEntry (first : Bool) (d : Derivation) : Except Fault Derivation :=
  match afterComma first .flowSequenceEnd d.tokens with
  | .error e => .error e
  | .ok (.flowSequenceEnd :: ts) => .ok ({ d with tokens := ts }.emit .sequenceEnd)
  | .ok (.key :: ts) =>
    let d := { d with tokens := ts }.emit (.mappingStart {})
    .ok ((d.expect (.flowEntry false)).expect .pairKey)
  | .ok ts =>
    .ok (({ d with tokens := ts }.expect (.flowEntry false)).expect (.node false false))

/-- The key of a single pair in a flow list. A key left out takes the token after it along. -/
def pairKey (d : Derivation) : Derivation :=
  if d.atToken [.value, .flowEntry, .flowSequenceEnd] then
    ({ d with tokens := d.tokens.drop 1 }.expect .pairValue).emit .omitted
  else (d.expect .pairValue).expect (.node false false)

/-- The value of a single pair in a flow list. -/
def pairValue (d : Derivation) : Derivation :=
  match d.tokens with
  | .value :: ts =>
    ({ d with tokens := ts }.expect .pairEnd).nodeUnless [.flowEntry, .flowSequenceEnd] false false
  | _ => (d.expect .pairEnd).emit .omitted

/-- Another key of a flow mapping. -/
def flowKey (first : Bool) (d : Derivation) : Except Fault Derivation :=
  match afterComma first .flowMappingEnd d.tokens with
  | .error e => .error e
  | .ok (.flowMappingEnd :: ts) => .ok ({ d with tokens := ts }.emit .mappingEnd)
  | .ok (.key :: ts) =>
    .ok (({ d with tokens := ts }.expect .flowValue).nodeUnless
      [.value, .flowEntry, .flowMappingEnd] false false)
  | .ok ts =>
    .ok (({ d with tokens := ts }.expect .flowNoValue).expect (.node false false))

/-- The value after a key of a flow mapping. -/
def flowValue (d : Derivation) : Derivation :=
  match d.tokens with
  | .value :: ts =>
    ({ d with tokens := ts }.expect (.flowKey false)).nodeUnless [.flowEntry, .flowMappingEnd]
      false false
  | _ => (d.expect (.flowKey false)).emit .omitted

/-- Meets one expectation. -/
def meet (handles : List (String × String)) (e : Expectation) (d : Derivation) :
    Except Fault Derivation :=
  match e with
  | .node block indentless => d.node handles block indentless
  | .blockEntry => d.blockEntry
  | .indentlessEntry => .ok d.indentlessEntry
  | .blockKey => d.blockKey
  | .blockValue => .ok d.blockValue
  | .flowEntry first => d.flowEntry first
  | .pairKey => .ok d.pairKey
  | .pairValue => .ok d.pairValue
  | .pairEnd => .ok (d.emit .mappingEnd)
  | .flowKey first => d.flowKey first
  | .flowValue => .ok d.flowValue
  | .flowNoValue => .ok ((d.expect (.flowKey false)).emit .omitted)

/-- Meets expectations until there are none. -/
def run (handles : List (String × String)) : Nat → Derivation → Except Fault Derivation
  | 0, _ => .error .stepLimit
  | fuel + 1, d =>
    match d.expected with
    | [] => .ok d
    | e :: es =>
      match meet handles e { d with expected := es } with
      | .error err => .error err
      | .ok d => run handles fuel d

end Derivation

/-- The handles that need no declaration. -/
def defaultHandles : List (String × String) := [("!", "!"), ("!!", "tag:yaml.org,2002:")]

/-- Reads directives: the declared handles, and the tokens behind the directives. -/
def directives : Bool → List (String × String) → List Token →
    Except Fault (List (String × String) × List Token)
  | versioned, handles, .version major minor :: ts =>
    if versioned || major ≠ 1 || (minor ≠ 1 && minor ≠ 2) then .error .badDirective
    else directives true handles ts
  | versioned, handles, .handle name stem :: ts =>
    if handles.any (·.1 = name) then .error .badDirective
    else directives versioned ((name, stem) :: handles) ts
  | _, handles, ts => .ok (handles, ts)

/-- Whether a token, or the end, begins no content. -/
def beginsNoContent : List Token → Bool
  | [] => true
  | .documentStart :: _ => true
  | .documentEnd :: _ => true
  | .version _ _ :: _ => true
  | .handle _ _ :: _ => true
  | _ => false

/-- The events of a value, which must be followed by the end or by end markers only. -/
def valueEvents (handles : List (String × String)) (ts : List Token) : Except Fault (List Event) :=
  let start : Derivation := { tokens := ts, expected := [.node true false] }
  match Derivation.run handles (8 * ts.length + 8) start with
  | .error e => .error e
  | .ok d =>
    if (d.tokens.dropWhile (· = .documentEnd)).isEmpty then .ok d.events.toList
    else .error .extraDocument

/-- The events of the one document in a token sequence; none if there is no document. -/
def events (ts : List Token) : Except Fault (List Event) :=
  match ts with
  | [] => .ok []
  | t :: _ =>
    if beginsNoContent ts && t ≠ .documentEnd then
      match directives false [] ts with
      | .error e => .error e
      | .ok (handles, .documentStart :: content) =>
        if beginsNoContent content then
          if (content.dropWhile (· = .documentEnd)).isEmpty then .ok [.omitted]
          else .error .extraDocument
        else valueEvents (handles ++ defaultHandles) content
      | .ok _ => .error .missingDocument
    else valueEvents defaultHandles ts

end FactViews.Yaml
