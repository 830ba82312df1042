import Federation.Text.Utf8
import Federation.Yaml.Event.Grammar

namespace Federation.Yaml

inductive Entry
  | alias (anchor : Nat)
  | scalar (tag : Option Tag) (text : String) (style : Style)
  | sequenceStart (tag : Option Tag)
  | sequenceEnd
  | mappingStart (tag : Option Tag)
  | mappingEnd
  | nothing
  deriving DecidableEq, Repr

/-- The first document of a text, as far as it can be read. -/
structure Document where
  entries : List (Entry × Mark)
  anchors : List (Nat × Nat)
  /-- Why the entries end too early, if they do. -/
  fault : Option Fault
  isLast : Bool
  deriving Repr

namespace Document

/-- A document on its way. A new anchor takes the number of different names before it, so that one
whose name is used again may share its number with another. -/
structure Draft where
  entries : List (Entry × Mark)
  numbers : List (String × Nat)
  anchors : List (Nat × Nat)

namespace Draft

def start : Draft := ⟨[], [], []⟩

def add (d : Draft) (e : Entry) (m : Mark) : Draft := { d with entries := (e, m) :: d.entries }

def anchor (d : Draft) : Option String → Draft
  | none => d
  | some name =>
    let number := d.numbers.length
    { d with
      numbers := (name, number) :: d.numbers.filter (·.1 ≠ name)
      anchors := (number, d.entries.length) :: d.anchors }

def finish (d : Draft) (fault : Option Fault) (isLast : Bool) : Document :=
  ⟨d.entries.reverse, d.anchors, fault, isLast⟩

end Draft

def atEnd (g : Grammar) : Bool :=
  match g.next with
  | .ok (.streamEnd, _, _) => true
  | _ => false

def read : Nat → Draft → Grammar → Document
  | 0, d, _ => d.finish (some .ended) true
  | fuel + 1, d, g =>
    match g.next with
    | .error f => d.finish (some f) true
    | .ok (e, m, g) => match e with
      | .streamEnd => (if d.entries.isEmpty then d.add .nothing m else d).finish none true
      | .documentStart => read fuel d g
      | .documentEnd => d.finish none (atEnd g)
      | .alias name => match d.numbers.lookup name with
        | some number => read fuel (d.add (.alias number) m) g
        | none => d.finish (some (.unknownAnchor m)) true
      | .scalar anchor tag text style => read fuel ((d.anchor anchor).add (.scalar tag text style) m) g
      | .sequenceStart anchor tag => read fuel ((d.anchor anchor).add (.sequenceStart tag) m) g
      | .sequenceEnd => read fuel (d.add .sequenceEnd m) g
      | .mappingStart anchor tag => read fuel ((d.anchor anchor).add (.mappingStart tag) m) g
      | .mappingEnd => read fuel (d.add .mappingEnd m) g

def badCharacter? (s : String) : Option Nat :=
  let good := s.toList.takeWhile isAllowed
  if good.length = s.length then none else some (Text.toUtf8 (String.ofList good)).length

/-- The first document of a text. A character makes few tokens, and a token few events. -/
def ofText (s : String) : Document :=
  match badCharacter? s with
  | some offset => ⟨[], [], some (.character offset), true⟩
  | none => read (16 * s.length + 16) .start (.ofText s)

end Document

end Federation.Yaml
