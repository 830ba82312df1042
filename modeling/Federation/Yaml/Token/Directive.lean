import Federation.Yaml.Token.Tag

namespace Federation.Yaml.Directive

def readNumber (start : Mark) (c : Cursor) : Except Fault (Nat × Cursor) :=
  let (digits, rest) := c.readWhile Char.isDigit
  if 9 < digits.length then (c.skip 9).fault .longVersionNumber .versionDirective start
  else if digits.isEmpty then rest.fault .noVersionNumber .versionDirective start
  else .ok ((Text.number? 10 digits).getD 0, rest)

def readVersion (start : Mark) (c : Cursor) : Except Fault (Token × Cursor) := do
  let (major, c) ← readNumber start (c.skipWhile isSpaceOrTab)
  if c.char ≠ '.' then c.fault .noVersionPoint .versionDirective start
  else
    let (minor, c) ← readNumber start (c.skip 1)
    .ok (.versionDirective major minor, c)

def readTag (start : Mark) (c : Cursor) : Except Fault (Token × Cursor) := do
  let (handle, c) ← Tag.readHandle true start (c.skipWhile isSpaceOrTab)
  if !isSpaceOrTab c.char then c.fault .noSpaceInDirective .tagDirective start
  else
    let (stem, c) ← Tag.readUri true .directiveStem start [] (c.skipWhile isSpaceOrTab)
    if isGap c.char then .ok (.tagDirective (String.ofList handle) stem, c)
    else c.fault .noSpaceOrBreak .tagDirective start

def token (c : Cursor) : Except Fault (Placed × Cursor) := do
  let start := c.mark
  let (name, c) := (c.skip 1).readWhile isWordChar
  if name.isEmpty then c.fault .noDirectiveName .directive start
  else if !isGap c.char then c.fault .badDirectiveName .directive start
  else
    let (t, c) ←
      if name = ['Y', 'A', 'M', 'L'] then readVersion start c
      else if name = ['T', 'A', 'G'] then readTag start c
      else c.fault .unknownDirective .directive start
    let stop := c.mark
    let c := (c.skipWhile isSpaceOrTab).skipComment
    if isBreakOrEnding c.char then .ok (⟨t, start, stop⟩, c.skipBreak)
    else c.fault .noCommentOrBreak .directive start

end Federation.Yaml.Directive
