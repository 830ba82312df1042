import Federation.Text.Utf8

namespace Federation.Yaml

/-- What the writer of a text says about the kind of a node. The bytes of a tag can be written by
their numbers, so that they need not spell text. -/
structure Tag where
  bytes : List UInt8
  deriving DecidableEq, Repr

namespace Tag

def ofText (s : String) : Tag := ⟨Text.toUtf8 s⟩

def core (name : String) : Tag := ofText ("tag:yaml.org,2002:" ++ name)

def upToNought (bs : List UInt8) : List UInt8 := bs.takeWhile (· ≠ 0)

def exclamationMark : UInt8 := 0x21

def isLocal (t : Tag) : Bool := t.bytes.head? == some exclamationMark

def name? (t : Tag) : Option String :=
  if t.isLocal then
    Text.ofUtf8? (if t.bytes.length = 1 then t.bytes else t.bytes.drop 1)
  else none

end Tag

end Federation.Yaml
