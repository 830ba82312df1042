import Federation.Yaml.Cursor

namespace Federation.Yaml

/-- The blank space between two words of a plain or quoted scalar. Once a line has ended, the
blanks around its end do not count. -/
structure Gap where
  blanks : List Char
  first : Option (List Char)
  others : List Char
  deriving Repr

namespace Gap

def empty : Gap := ⟨[], none, []⟩

def escaped : Gap := ⟨[], some [], []⟩

def hasBreak (g : Gap) : Bool := g.first.isSome

def folded (g : Gap) : List Char :=
  match g.first with
  | none => g.blanks
  | some ['\n'] => if g.others.isEmpty then [' '] else g.others
  | some b => b ++ g.others

/-- Reads on through blanks and line breaks. A tab that stands in for indentation stops the
reading where `tabStop` is the column that the text has to reach. -/
def read (tabStop : Nat) : Nat → Gap → Cursor → Except Mark (Gap × Cursor)
  | 0, g, c => .ok (g, c)
  | fuel + 1, g, c =>
    if isSpaceOrTab c.char then
      if g.hasBreak then
        if c.mark.column < tabStop ∧ c.char = '\t' then .error c.mark
        else read tabStop fuel g (c.skip 1)
      else read tabStop fuel { g with blanks := g.blanks ++ [c.char] } (c.skip 1)
    else if isBreak c.char then
      let (b, next) := c.readBreak
      match g.first with
      | none => read tabStop fuel ⟨[], some b, []⟩ next
      | some _ => read tabStop fuel { g with others := g.others ++ b } next
    else .ok (g, c)

end Gap

end Federation.Yaml
