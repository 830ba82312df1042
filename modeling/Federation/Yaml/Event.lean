import Federation.Yaml.Token

namespace Federation.Yaml

/-- What a text says, step by step: collections are opened and closed around what they hold. -/
inductive Event
  | streamEnd
  | documentStart
  | documentEnd
  | alias (name : String)
  | scalar (anchor : Option String) (tag : Option Tag) (text : String) (style : Style)
  | sequenceStart (anchor : Option String) (tag : Option Tag)
  | sequenceEnd
  | mappingStart (anchor : Option String) (tag : Option Tag)
  | mappingEnd
  deriving DecidableEq, Repr

def Event.empty : Event := .scalar none none "" .plain

end Federation.Yaml
