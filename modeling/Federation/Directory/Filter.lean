namespace Federation

/-- A condition that narrows a lookup: one field equals a text. The directory takes one field in a
request. -/
inductive Filter
  | displayName (value : String)
  | subject (value : String)
  deriving DecidableEq, Repr

namespace Filter

def field : Filter → String
  | .displayName _ => "displayName"
  | .subject _ => "subject"

def value : Filter → String
  | .displayName v | .subject v => v

def escape : List Char → List Char
  | [] => []
  | c :: cs => if c = '\'' then '\'' :: '\'' :: escape cs else c :: escape cs

def quote (value : String) : String := String.ofList ('\'' :: escape value.toList ++ ['\''])

def text (f : Filter) : String := f.field ++ " eq " ++ quote f.value

end Filter

end Federation
