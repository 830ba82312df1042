import Federation.Yaml.Fault

namespace Federation.Yaml

/-- What is left of a text, and the place that has been reached. -/
structure Cursor where
  rest : List Char
  mark : Mark
  deriving Repr

/-- Stands for the end of a text, in which it cannot occur. -/
def ending : Char := '\x00'

def isAllowed (c : Char) : Bool :=
  let n := c.toNat
  n == 0x09 || n == 0x0A || n == 0x0D || (0x20 ≤ n && n ≤ 0x7E) || n == 0x85 ||
    (0xA0 ≤ n && n ≤ 0xD7FF) || (0xE000 ≤ n && n ≤ 0xFFFD) || 0x10000 ≤ n

def isSpaceOrTab (c : Char) : Bool := c == ' ' || c == '\t'

def isBreak (c : Char) : Bool :=
  c == '\n' || c == '\r' || c == '\u0085' || c == '\u2028' || c == '\u2029'

def isBreakOrEnding (c : Char) : Bool := isBreak c || c == ending

def isGap (c : Char) : Bool := isSpaceOrTab c || isBreakOrEnding c

def isWordChar (c : Char) : Bool := c.isAlphanum || c == '-' || c == '_'

def isFlowSign (c : Char) : Bool := [',', '[', ']', '\x7b', '\x7d'].contains c

namespace Cursor

def ofText (s : String) : Cursor := ⟨s.toList, .start⟩

def ahead (c : Cursor) (n : Nat) : Char := c.rest.getD n ending

def char (c : Cursor) : Char := c.ahead 0

def bytesAhead (c : Cursor) (n : Nat) : Nat :=
  (c.rest.take n).foldl (fun bytes ch => bytes + ch.utf8Size) 0

def skip (c : Cursor) (n : Nat) : Cursor :=
  ⟨c.rest.drop n, ⟨c.mark.index + c.bytesAhead n, c.mark.line, c.mark.column + n⟩⟩

def readWhile (p : Char → Bool) (c : Cursor) : List Char × Cursor :=
  let taken := c.rest.takeWhile p
  (taken, c.skip taken.length)

def skipWhile (p : Char → Bool) (c : Cursor) : Cursor := (c.readWhile p).2

def skipComment (c : Cursor) : Cursor :=
  if c.char = '#' then c.skipWhile (!isBreak ·) else c

/-- Reads a line break, if there is one. All but the separators of lines and paragraphs read as a
line feed. -/
def readBreak (c : Cursor) : List Char × Cursor :=
  let next (n : Nat) : Cursor :=
    ⟨c.rest.drop n, ⟨c.mark.index + c.bytesAhead n, c.mark.line + 1, 0⟩⟩
  match c.rest with
  | '\r' :: '\n' :: _ => (['\n'], next 2)
  | ch :: _ =>
    if ch = '\u2028' ∨ ch = '\u2029' then ([ch], next 1)
    else if isBreak ch then (['\n'], next 1)
    else ([], c)
  | [] => ([], c)

def skipBreak (c : Cursor) : Cursor := c.readBreak.2

def atDocumentSign (sign : Char) (c : Cursor) : Bool :=
  c.mark.column == 0 && c.rest.take 3 == [sign, sign, sign] && isGap (c.ahead 3)

def atDocumentMark (c : Cursor) : Bool := c.atDocumentSign '-' || c.atDocumentSign '.'

def fault {α : Type} (c : Cursor) (problem : Problem) (activity : Activity) (since : Mark) :
    Except Fault α :=
  .error (.malformed problem c.mark (some ⟨activity, since⟩))

end Cursor

end Federation.Yaml
