import Federation.Yaml.Event
import Federation.Yaml.Token.Lexer

namespace Federation.Yaml

inductive Expected
  | firstDocument
  | document
  | documentContent
  | documentEnd
  | blockNode
  | sequenceEntry
  | flatSequenceEntry
  | mappingKey
  | mappingValue
  | flowSequenceEntry (isFirst : Bool)
  | pairKey
  | pairValue
  | pairEnd
  | flowMappingKey (isFirst : Bool)
  | flowMappingValue
  | flowMappingNoValue
  | nothing
  deriving DecidableEq, Repr

/-- A text on its way to being events. -/
structure Grammar where
  lexer : Lexer
  expected : Expected
  /-- What is expected when the collections that are open are closed, innermost first. -/
  later : List Expected
  marks : List Mark
  handles : List (String × List UInt8)

namespace Grammar

def ofText (s : String) : Grammar := ⟨.ofText s, .firstDocument, [], [], []⟩

abbrev Step : Type := Except Fault (Event × Mark × Grammar)

def peek (g : Grammar) : Except Fault (Placed × Grammar) := do
  let (t, lexer) ← g.lexer.peek
  .ok (t, { g with lexer := lexer })

def drop (g : Grammar) : Grammar := { g with lexer := g.lexer.drop }

def peekBehind (g : Grammar) : Except Fault (Placed × Grammar) := g.drop.peek

def expect (g : Grammar) (e : Expected) : Grammar := { g with expected := e }

def expectLater (g : Grammar) (e : Expected) : Grammar := { g with later := e :: g.later }

def resume (g : Grammar) : Grammar :=
  { g with expected := g.later.headD .nothing, later := g.later.drop 1 }

def enter (g : Grammar) (t : Placed) : Grammar := { g with marks := t.start :: g.marks }.drop

def leave (g : Grammar) (t : Placed) (e : Event) : Step :=
  .ok (e, t.start, { g with marks := g.marks.drop 1 }.resume.drop)

def emptyScalar (g : Grammar) (place : Mark) (next : Expected) : Step :=
  .ok (.empty, place, g.expect next)

def fault {α : Type} (problem : Problem) (t : Placed) : Except Fault α :=
  .error (.malformed problem t.start none)

def faultInside {α : Type} (g : Grammar) (problem : Problem) (t : Placed) (activity : Activity) :
    Except Fault α :=
  .error (.malformed problem t.start (g.marks.head?.map (⟨activity, ·⟩)))

structure Properties where
  anchor : Option String
  tag : Option (String × List UInt8)
  tagMark : Mark
  start : Mark

def properties (g : Grammar) : Except Fault (Properties × Placed × Grammar) := do
  let (t, g) ← g.peek
  let m := t.start
  match t.token with
  | .anchor name =>
    let (t, g) ← g.peekBehind
    match t.token with
    | .tag handle suffix =>
      let (u, g) ← g.peekBehind
      .ok (⟨some name, some (handle, suffix), t.start, m⟩, u, g)
    | _ => .ok (⟨some name, none, m, m⟩, t, g)
  | .tag handle suffix =>
    let (t, g) ← g.peekBehind
    match t.token with
    | .anchor name =>
      let (u, g) ← g.peekBehind
      .ok (⟨some name, some (handle, suffix), m, m⟩, u, g)
    | _ => .ok (⟨none, some (handle, suffix), m, m⟩, t, g)
  | _ => .ok (⟨none, none, m, m⟩, t, g)

def resolveTag (g : Grammar) (p : Properties) : Except Fault (Option Tag) :=
  match p.tag with
  | none => .ok none
  | some ("", suffix) => .ok (some ⟨suffix⟩)
  | some (handle, suffix) => match g.handles.lookup handle with
    | some stem => .ok (some ⟨stem ++ suffix⟩)
    | none => .error (.malformed .unknownTagHandle p.tagMark (some ⟨.node, p.start⟩))

/-- Reads a node, or what begins it. Inside brackets there are no block collections; only what
belongs to a key can be a sequence without indentation. -/
def node (g : Grammar) (block ofKey : Bool) : Step := do
  let (p, t, g) ← g.properties
  match t.token, p.anchor, p.tag with
  | .alias name, none, none => .ok (.alias name, p.start, g.resume.drop)
  | _, _, _ =>
    let tag ← g.resolveTag p
    let opened (e : Event) (next : Expected) : Step := .ok (e, p.start, (g.enter t).expect next)
    match t.token with
    | .scalar text style => .ok (.scalar p.anchor tag text style, p.start, g.resume.drop)
    | .flowSequenceStart => opened (.sequenceStart p.anchor tag) (.flowSequenceEntry true)
    | .flowMappingStart => opened (.mappingStart p.anchor tag) (.flowMappingKey true)
    | u =>
      if ofKey ∧ u = .blockEntry then
        .ok (.sequenceStart p.anchor tag, p.start, g.expect .flatSequenceEntry)
      else if block ∧ u = .blockSequenceStart then
        opened (.sequenceStart p.anchor tag) .sequenceEntry
      else if block ∧ u = .blockMappingStart then opened (.mappingStart p.anchor tag) .mappingKey
      else if p.anchor.isSome ∨ tag.isSome then
        .ok (.scalar p.anchor tag "" .plain, p.start, g.resume)
      else
        let activity : Activity := if block then .blockNode else .flowNode
        .error (.malformed .noContent t.start (some ⟨activity, p.start⟩))

def directives (hasVersion : Bool) : Nat → Grammar → Except Fault Grammar
  | 0, g => .ok g
  | fuel + 1, g => do
    let (t, g) ← g.peek
    match t.token with
    | .versionDirective major minor =>
      if hasVersion then fault .repeatedVersion t
      else if major ≠ 1 ∨ (minor ≠ 1 ∧ minor ≠ 2) then fault .otherVersion t
      else directives true fuel g.drop
    | .tagDirective handle stem =>
      if (g.handles.lookup handle).isSome then fault .repeatedTagDirective t
      else directives hasVersion fuel { g with handles := g.handles ++ [(handle, stem)] }.drop
    | _ => .ok g

def knownHandles : List (String × List UInt8) :=
  [("!", [Tag.exclamationMark]), ("!!", (Tag.core "").bytes)]

def addKnownHandles (g : Grammar) : Grammar := { g with handles := g.handles ++ knownHandles }

def skipDocumentEnds : Nat → Grammar → Except Fault Grammar
  | 0, g => .ok g
  | fuel + 1, g => do
    let (t, g) ← g.peek
    if t.token = .documentEnd then skipDocumentEnds fuel g.drop else .ok g

def fuel (g : Grammar) : Nat := g.lexer.cursor.rest.length + g.lexer.queue.length + 1

/-- Begins a document. Only the first may do without a sign. -/
def document (g : Grammar) (isFirst : Bool) : Step := do
  let g ← if isFirst then .ok g else skipDocumentEnds g.fuel g
  let (t, g) ← g.peek
  let isExplicit := match t.token with
    | .versionDirective .. | .tagDirective .. | .documentStart => true
    | _ => false
  if t.token = .streamEnd then .ok (.streamEnd, t.start, g.drop.expect .nothing)
  else if isFirst ∧ !isExplicit then
    .ok (.documentStart, t.start, (g.addKnownHandles.expectLater .documentEnd).expect .blockNode)
  else
    let g ← directives false g.fuel g
    let (u, g) ← g.addKnownHandles.peek
    if u.token = .documentStart then
      .ok (.documentStart, t.start, (g.drop.expectLater .documentEnd).expect .documentContent)
    else fault .noDocumentStart u

def documentContent (g : Grammar) : Step := do
  let (t, g) ← g.peek
  match t.token with
  | .versionDirective .. | .tagDirective .. | .documentStart | .documentEnd | .streamEnd =>
    .ok (.empty, t.start, g.resume)
  | _ => g.node true false

def documentEnd (g : Grammar) : Step := do
  let (t, g) ← g.peek
  let g := { g with handles := [], expected := .document }
  .ok (.documentEnd, t.start, if t.token = .documentEnd then g.drop else g)

def nodeBehind (g : Grammar) (sign : Placed) (stops : List Token) (next : Expected)
    (block ofKey : Bool) : Step := do
  let (t, g) ← g.peekBehind
  if stops.contains t.token then g.emptyScalar sign.stop next
  else (g.expectLater next).node block ofKey

def sequenceEntry (g : Grammar) : Step := do
  let (t, g) ← g.peek
  match t.token with
  | .blockEntry => g.nodeBehind t [.blockEntry, .blockEnd] .sequenceEntry true false
  | .blockEnd => g.leave t .sequenceEnd
  | _ => g.faultInside .noDash t .blockCollection

def flatSequenceEntry (g : Grammar) : Step := do
  let (t, g) ← g.peek
  match t.token with
  | .blockEntry =>
    g.nodeBehind t [.blockEntry, .key, .value, .blockEnd] .flatSequenceEntry true false
  | _ => .ok (.sequenceEnd, t.start, g.resume)

def mappingKey (g : Grammar) : Step := do
  let (t, g) ← g.peek
  match t.token with
  | .key => g.nodeBehind t [.key, .value, .blockEnd] .mappingValue true true
  | .blockEnd => g.leave t .mappingEnd
  | _ => g.faultInside .noKey t .blockMapping

def mappingValue (g : Grammar) : Step := do
  let (t, g) ← g.peek
  match t.token with
  | .value => g.nodeBehind t [.key, .value, .blockEnd] .mappingKey true true
  | _ => g.emptyScalar t.start .mappingKey

def separator (g : Grammar) (isFirst : Bool) (closing : Token) (problem : Problem)
    (activity : Activity) : Except Fault (Placed × Grammar) := do
  let (t, g) ← g.peek
  if isFirst ∨ t.token = closing then .ok (t, g)
  else if t.token = .flowEntry then g.peekBehind
  else g.faultInside problem t activity

def flowSequenceEntry (g : Grammar) (isFirst : Bool) : Step := do
  let (t, g) ← g.separator isFirst .flowSequenceEnd .noCommaOrBracket .flowSequence
  match t.token with
  | .flowSequenceEnd => g.leave t .sequenceEnd
  | .key => .ok (.mappingStart none none, t.start, g.drop.expect .pairKey)
  | _ => (g.expectLater (.flowSequenceEntry false)).node false false

/-- The token that stands where an empty key ends is handed out with it. -/
def pairKey (g : Grammar) : Step := do
  let (t, g) ← g.peek
  if t.token = .value ∨ t.token = .flowEntry ∨ t.token = .flowSequenceEnd then
    g.drop.emptyScalar t.stop .pairValue
  else (g.expectLater .pairValue).node false false

def flowValue (g : Grammar) (closing : Token) (next : Expected) : Step := do
  let (t, g) ← g.peek
  if t.token = .value then
    let (u, g) ← g.peekBehind
    if u.token = .flowEntry ∨ u.token = closing then g.emptyScalar u.start next
    else (g.expectLater next).node false false
  else g.emptyScalar t.start next

def pairEnd (g : Grammar) : Step := do
  let (t, g) ← g.peek
  .ok (.mappingEnd, t.start, g.expect (.flowSequenceEntry false))

def flowMappingKey (g : Grammar) (isFirst : Bool) : Step := do
  let (t, g) ← g.separator isFirst .flowMappingEnd .noCommaOrBrace .flowMapping
  match t.token with
  | .flowMappingEnd => g.leave t .mappingEnd
  | .key =>
    let (u, g) ← g.peekBehind
    if u.token = .value ∨ u.token = .flowEntry ∨ u.token = .flowMappingEnd then
      g.emptyScalar u.start .flowMappingValue
    else (g.expectLater .flowMappingValue).node false false
  | _ => (g.expectLater .flowMappingNoValue).node false false

/-- Reads the next event. -/
def next (g : Grammar) : Step :=
  match g.expected with
  | .firstDocument => g.document true
  | .document => g.document false
  | .documentContent => g.documentContent
  | .documentEnd => g.documentEnd
  | .blockNode => g.node true false
  | .sequenceEntry => g.sequenceEntry
  | .flatSequenceEntry => g.flatSequenceEntry
  | .mappingKey => g.mappingKey
  | .mappingValue => g.mappingValue
  | .flowSequenceEntry isFirst => g.flowSequenceEntry isFirst
  | .pairKey => g.pairKey
  | .pairValue => g.flowValue .flowSequenceEnd .pairEnd
  | .pairEnd => g.pairEnd
  | .flowMappingKey isFirst => g.flowMappingKey isFirst
  | .flowMappingValue => g.flowValue .flowMappingEnd (.flowMappingKey false)
  | .flowMappingNoValue => do
    let (t, g) ← g.peek
    g.emptyScalar t.start (.flowMappingKey false)
  | .nothing => .error .ended

end Grammar

end Federation.Yaml
