import Federation.Http.Name.Direction
import Federation.Http.Name.Joining
import Federation.Http.Name.Mapping
import Federation.Text.Mark
import Federation.Text.Punycode
import Federation.Text.Split

namespace Federation.Http.Name

open Text (inRanges)

def isAscii (c : Char) : Bool := c.toNat < 0x80

def isForbidden (c : Char) : Bool :=
  c.toNat ≤ 0x20 || c.toNat == 0x7F ||
    ['#', '%', '/', ':', '<', '>', '?', '@', '[', '\\', ']', '^', '|'].contains c

def mapped? (cs : List Char) : Option (List Char) :=
  if cs.all isAscii then some (cs.map Char.toLower)
  else if cs.any (inRanges disallowed) then none
  else
    some (Text.normal ((cs.filter (!inRanges ignored ·)).flatMap fun c =>
      (Text.replace? mappings c).getD [c]))

def isStable (c : Char) : Bool :=
  !isForbidden c && !inRanges disallowed c && !inRanges ignored c &&
    (Text.replace? mappings c).isNone

/-- A part of a name between dots. -/
structure Label where
  text : List Char
  ascii : List Char
  deriving DecidableEq, Repr

def mark : List Char := ['x', 'n', '-', '-']

def maxEncodedLength : Nat := 2000

def maxLength : Nat := 1000

def decoded? (cs : List Char) : Option (List Char) :=
  if cs.isEmpty ∨ cs.getLast? = some '-' ∨ maxEncodedLength < cs.length ∨ !cs.all isAscii then none
  else (Text.Punycode.decode cs).filter fun label =>
    label.all isStable && Text.normal label == label

def isFit (cs : List Char) : Bool :=
  cs.length ≤ maxLength && !cs.head?.any Text.isMark && joinersFit [] cs

def Label.ofChars? (cs : List Char) : Option Label :=
  if cs.any isForbidden then none
  else if mark.isPrefixOf cs then
    ((decoded? (cs.drop mark.length)).filter isFit).map (⟨·, cs⟩)
  else if cs.all isAscii then some ⟨cs, cs⟩
  else if isFit cs then some ⟨cs, mark ++ Text.Punycode.encode cs⟩
  else none

/-- A name in ASCII: a label with other letters is sent as `xn--` and what stands for it in letters,
digits and hyphens. In a name that is read in two directions, the order of each label has to be
clear. -/
def toAscii? (cs : List Char) : Option (List Char) := do
  let labels ← (Text.splitAt '.' (← mapped? cs)).mapM Label.ofChars?
  if labels.any (·.text.any turns) && !labels.all (directionsFit ·.text) then none
  else some (['.'].intercalate (labels.map (·.ascii)))

end Federation.Http.Name
