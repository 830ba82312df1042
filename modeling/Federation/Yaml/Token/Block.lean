import Federation.Text.Digit
import Federation.Yaml.Token
import Federation.Yaml.Cursor

namespace Federation.Yaml.Block

inductive Chomping
  | strip
  | clip
  | keep
  deriving DecidableEq

def chomping? : Char → Option Chomping
  | '+' => some .keep
  | '-' => some .strip
  | _ => none

structure Header where
  chomping : Chomping
  increment : Option Nat

def readIncrement (start : Mark) (c : Cursor) : Except Fault (Option Nat × Cursor) :=
  if c.char = '0' then c.fault .zeroIndent .blockScalar start
  else match Text.number? 10 [c.char] with
    | some n => .ok (some n, c.skip 1)
    | none => .ok (none, c)

def readSigns (start : Mark) (c : Cursor) : Except Fault (Header × Cursor) :=
  match chomping? c.char with
  | some chomping => do
    let (increment, c) ← readIncrement start (c.skip 1)
    .ok (⟨chomping, increment⟩, c)
  | none => do
    let (increment, c) ← readIncrement start c
    match increment, chomping? c.char with
    | some _, some chomping => .ok (⟨chomping, increment⟩, c.skip 1)
    | _, _ => .ok (⟨.clip, increment⟩, c)

def readHeader (start : Mark) (c : Cursor) : Except Fault (Header × Cursor) := do
  let (header, c) ← readSigns start c
  let c := (c.skipWhile isSpaceOrTab).skipComment
  if isBreakOrEnding c.char then .ok (header, c.skipBreak)
  else c.fault .noCommentOrBreak .blockScalar start

/-- Reads empty lines and the indentation of the line behind them. Without an indentation to
respect, any number of spaces is read. Answers the line breaks, where the last of them ends, and
the greatest indentation. -/
def readBreaks (indent : Option Nat) (start : Mark) :
    Nat → List Char → Mark → Nat → Cursor → Except Fault (List Char × Mark × Nat × Cursor)
  | 0, breaks, stop, deepest, c => .ok (breaks, stop, deepest, c)
  | fuel + 1, breaks, stop, deepest, c =>
    let spaces := (c.rest.takeWhile (· == ' ')).length
    let c := c.skip (match indent with
      | none => spaces
      | some n => min spaces (n - c.mark.column))
    let deepest := max deepest c.mark.column
    if indent.all (c.mark.column < ·) ∧ c.char = '\t' then
      c.fault .tabInIndent .blockScalar start
    else if isBreak c.char then
      let (b, next) := c.readBreak
      readBreaks indent start fuel (breaks ++ b) next.mark deepest next
    else .ok (breaks, stop, deepest, c)

/-- A block scalar so far: its text, the break that ended its last line, the breaks of the empty
lines behind that, whether that line began with a blank, and where it all ends. -/
structure Draft where
  text : List Char
  lineBreak : List Char
  emptyLines : List Char
  blank : Bool
  stop : Mark

/-- The text before a line that is about to be read. When folding, the break between two lines
that do not begin with a blank becomes a space, or nothing if empty lines are between them. -/
def Draft.joined (d : Draft) (fold blank : Bool) : List Char :=
  let join := fold && d.lineBreak == ['\n'] && !d.blank && !blank
  d.text ++ (if !join then d.lineBreak else if d.emptyLines.isEmpty then [' '] else []) ++
    d.emptyLines

def readLines (fold : Bool) (indent : Nat) (start : Mark) :
    Nat → Draft → Cursor → Except Fault (Draft × Cursor)
  | 0, d, c => .ok (d, c)
  | fuel + 1, d, c =>
    if c.mark.column ≠ indent ∨ c.char = ending then .ok (d, c)
    else do
      let blank := isSpaceOrTab c.char
      let (line, c) := c.readWhile (!isBreak ·)
      let (lineBreak, c) := c.readBreak
      let (emptyLines, stop, _, rest) ←
        readBreaks (some indent) start (c.rest.length + 1) [] c.mark 0 c
      readLines fold indent start fuel
        ⟨d.joined fold blank ++ line, lineBreak, emptyLines, blank, stop⟩ rest

def token (parent : Option Nat) (c : Cursor) : Except Fault (Placed × Cursor) := do
  let start := c.mark
  let fold := c.char == '>'
  let (header, c) ← readHeader start (c.skip 1)
  let known := header.increment.map (parent.getD 0 + ·)
  let (breaks, stop, deepest, c) ← readBreaks known start (c.rest.length + 1) [] c.mark 0 c
  let indent := known.getD (max (max deepest (parent.elim 0 (· + 1))) 1)
  let (d, c) ← readLines fold indent start (c.rest.length + 1) ⟨[], [], breaks, false, stop⟩ c
  let tail := match header.chomping with
    | .strip => []
    | .clip => d.lineBreak
    | .keep => d.lineBreak ++ d.emptyLines
  .ok (⟨.scalar (String.ofList (d.text ++ tail)) (if fold then .folded else .literal), start, d.stop⟩,
    c)

end Federation.Yaml.Block
