import Federation.Text.Digit
import Federation.Yaml.Token
import Federation.Yaml.Cursor

namespace Federation.Yaml.Tag

def isUriChar (verbatim : Bool) (c : Char) : Bool :=
  isWordChar c || [';', '/', '?', ':', '@', '&', '=', '+', '$', '.', '!', '~', '*', '\'', '(', ')',
    '%'].contains c || (verbatim && [',', '[', ']'].contains c)

def followers? (lead : Nat) : Option Nat :=
  if lead < 0x80 then some 0
  else if 0xC0 ≤ lead ∧ lead < 0xE0 then some 1
  else if 0xE0 ≤ lead ∧ lead < 0xF0 then some 2
  else if 0xF0 ≤ lead ∧ lead < 0xF8 then some 3
  else none

def readOctet (activity : Activity) (start : Mark) (c : Cursor) : Except Fault (Nat × Cursor) :=
  match c.char, Text.number? 16 [c.ahead 1, c.ahead 2] with
  | '%', some octet => .ok (octet, c.skip 3)
  | _, _ => c.fault .noEscapedOctet activity start

def readFollowers (activity : Activity) (start : Mark) :
    Nat → Cursor → Except Fault (List UInt8 × Cursor)
  | 0, c => .ok ([], c)
  | n + 1, c => do
    let (octet, next) ← readOctet activity start c
    if octet / 64 ≠ 2 then c.fault .badTrailingOctet activity start
    else
      let (more, rest) ← readFollowers activity start n next
      .ok (octet.toUInt8 :: more, rest)

/-- Reads one character whose bytes are escaped. Only how many bytes it has is checked. -/
def readEscaped (activity : Activity) (start : Mark) (c : Cursor) :
    Except Fault (List UInt8 × Cursor) := do
  let (lead, next) ← readOctet activity start c
  match followers? lead with
  | none => c.fault .badLeadingOctet activity start
  | some n =>
    let (more, rest) ← readFollowers activity start n next
    .ok (lead.toUInt8 :: more, rest)

def readUriChars (verbatim : Bool) (activity : Activity) (start : Mark) :
    Nat → Cursor → Except Fault (List UInt8 × Cursor)
  | 0, c => .ok ([], c)
  | fuel + 1, c =>
    if isUriChar verbatim c.char then do
      let (bytes, rest) ←
        if c.char = '%' then readEscaped activity start c
        else .ok (Text.toUtf8 (String.singleton c.char), c.skip 1)
      let (more, rest) ← readUriChars verbatim activity start fuel rest
      .ok (bytes ++ more, rest)
    else .ok ([], c)

def readUri (verbatim : Bool) (activity : Activity) (start : Mark) (handle : List Char)
    (c : Cursor) : Except Fault (List UInt8 × Cursor) := do
  let (bytes, rest) ← readUriChars verbatim activity start (c.rest.length + 1) c
  if handle.isEmpty ∧ bytes.isEmpty then rest.fault .noUri activity start
  else .ok (upToNought (Text.toUtf8 (String.ofList (handle.drop 1)) ++ bytes), rest)

/-- Reads an exclamation mark, a word, and the exclamation mark that ends a handle if there is
one. In a directive there has to be, unless the word is empty. -/
def readHandle (inDirective : Bool) (start : Mark) (c : Cursor) :
    Except Fault (List Char × Cursor) :=
  if c.char ≠ '!' then
    c.fault .noExclamationMark (if inDirective then .directiveHandle else .tag) start
  else
    let (word, c) := (c.skip 1).readWhile isWordChar
    if c.char = '!' then .ok ('!' :: word ++ ['!'], c.skip 1)
    else if inDirective ∧ !word.isEmpty then c.fault .noExclamationMark .directiveHandleParts start
    else .ok ('!' :: word, c)

def readParts (start : Mark) (c : Cursor) : Except Fault ((List Char × List UInt8) × Cursor) := do
  if c.ahead 1 = '<' then
    let (suffix, c) ← readUri true .tagParts start [] (c.skip 2)
    if c.char = '>' then .ok (([], suffix), c.skip 1) else c.fault .noClosingAngle .tag start
  else
    let (handle, c) ← readHandle false start c
    if 2 ≤ handle.length ∧ handle.getLast? = some '!' then
      let (suffix, c) ← readUri false .tagParts start [] c
      .ok ((handle, suffix), c)
    else
      let (suffix, c) ← readUri false .tagParts start handle c
      .ok (if suffix.isEmpty then ([], [exclamationMark]) else (['!'], suffix), c)

def token (inFlow : Bool) (c : Cursor) : Except Fault (Placed × Cursor) := do
  let ((handle, suffix), rest) ← readParts c.mark c
  if isGap rest.char ∨ (inFlow ∧ rest.char = ',') then
    .ok (⟨.tag (String.ofList handle) suffix, c.mark, rest.mark⟩, rest)
  else rest.fault .noSpaceOrBreak .tag c.mark

end Federation.Yaml.Tag
