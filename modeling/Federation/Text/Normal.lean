import Federation.Text.Normal.Table

namespace Federation.Text

def combiningClass (c : Char) : Nat :=
  (combiningClasses.find? fun k => inRanges k.2 c).elim 0 (·.1)

def syllableBase : Nat := 0xAC00
def leadBase : Nat := 0x1100
def vowelBase : Nat := 0x1161
def tailBase : Nat := 0x11A7
def leadCount : Nat := 19
def vowelCount : Nat := 21
def tailCount : Nat := 28

def syllableParts? (c : Char) : Option (List Char) :=
  let n := c.toNat - syllableBase
  if c.toNat < syllableBase ∨ leadCount * vowelCount * tailCount ≤ n then none
  else if n % tailCount = 0 then
    some [Char.ofNat (leadBase + n / (vowelCount * tailCount)),
      Char.ofNat (vowelBase + n / tailCount % vowelCount)]
  else some [Char.ofNat (c.toNat - n % tailCount), Char.ofNat (tailBase + n % tailCount)]

def syllable? (a b : Char) : Option Char :=
  let lead := a.toNat - leadBase
  let vowel := b.toNat - vowelBase
  let tail := b.toNat - tailBase
  if leadBase ≤ a.toNat ∧ lead < leadCount ∧ vowelBase ≤ b.toNat ∧ vowel < vowelCount then
    some (Char.ofNat (syllableBase + (lead * vowelCount + vowel) * tailCount))
  else if (syllableParts? a).isSome ∧ (a.toNat - syllableBase) % tailCount = 0 ∧
      tailBase < b.toNat ∧ tail < tailCount then
    some (Char.ofNat (a.toNat + tail))
  else none

def parts? (c : Char) : Option (List Char) :=
  ((syllableParts? c).or (replace? compositions c)).or (replace? abandoned c)

def takeApart : Nat → Char → List Char
  | 0, c => [c]
  | n + 1, c => match parts? c with
    | some cs => cs.flatMap (takeApart n)
    | none => [c]

def maxSteps : Nat := 4

def insertMark (c : Char) : List Char → List Char
  | [] => [c]
  | d :: ds =>
    if combiningClass d ≠ 0 ∧ combiningClass d < combiningClass c then d :: insertMark c ds
    else c :: d :: ds

def whole? (a b : Char) : Option Char :=
  (syllable? a b).or
    ((compositions.find? fun r => r.target == [a.toNat, b.toNat]).map fun r => Char.ofNat r.first)

/-- Puts characters together with the one they follow, unless a mark between them, of which the
last has the class given, is of their own class or a higher one. -/
def putTogether (c : Char) (between : List Char) (last : Nat) : List Char → List Char
  | [] => c :: between
  | d :: ds =>
    let k := combiningClass d
    match if between.isEmpty ∨ last < k then whole? c d else none with
    | some e => putTogether e between last ds
    | none =>
      if k = 0 then c :: between ++ putTogether d [] 0 ds
      else putTogether c (between ++ [d]) k ds

/-- The normal form of a text, in which characters that mean the same are the same: everything is
taken apart, marks are put in order, and what can be put together is put together again. -/
def normal (cs : List Char) : List Char :=
  match (cs.flatMap (takeApart maxSteps)).foldr insertMark [] with
  | [] => []
  | c :: rest => putTogether c [] 0 rest

end Federation.Text
