import Federation.Yaml.Token.Block
import Federation.Yaml.Token.Directive
import Federation.Yaml.Token.Plain
import Federation.Yaml.Token.Quoted

namespace Federation.Yaml

/-- A token that turns out to begin a key if a colon follows on its line. -/
structure Candidate where
  required : Bool
  number : Nat
  mark : Mark
  deriving Repr

/-- A text on its way to being tokens. A token is handed out only when it is certain that it does
not begin a key. -/
structure Lexer where
  cursor : Cursor
  queue : List Placed
  taken : Nat
  columns : List Nat
  keyAllowed : Bool
  /-- The latest candidate of the innermost bracket, or of the text outside brackets. -/
  candidate : Option Candidate
  outer : List (Option Candidate)

namespace Lexer

def ofText (s : String) : Lexer := ⟨.ofText s, [], 0, [], true, none, []⟩

def inFlow (l : Lexer) : Bool := !l.outer.isEmpty

def indent (l : Lexer) : Nat := l.columns.head?.elim 0 (· + 1)

def fault {α : Type} (l : Lexer) (problem : Problem) : Except Fault α :=
  .error (.malformed problem l.cursor.mark none)

def push (l : Lexer) (t : Placed) : Lexer := { l with queue := l.queue ++ [t] }

def insert (l : Lexer) (number : Nat) (t : Placed) : Lexer :=
  { l with queue := l.queue.insertIdx (number - l.taken) t }

def giveUp (l : Lexer) : Option Candidate → Except Fault (Option Candidate)
  | some k =>
    if k.required then .error (.malformed .noColon l.cursor.mark (some ⟨.simpleKey, k.mark⟩))
    else .ok none
  | none => .ok none

/-- A key and its colon stand on one line, at most 1024 bytes apart. -/
def isStale (l : Lexer) (k : Candidate) : Bool :=
  k.mark.line < l.cursor.mark.line || k.mark.index + 1024 < l.cursor.mark.index

def giveUpIfStale (l : Lexer) (k : Option Candidate) : Except Fault (Option Candidate) :=
  if k.any l.isStale then l.giveUp k else .ok k

def dropStale (l : Lexer) : Except Fault Lexer := do
  let outer ← l.outer.reverse.mapM l.giveUpIfStale
  let candidate ← l.giveUpIfStale l.candidate
  .ok { l with outer := outer.reverse, candidate := candidate }

def dropCandidate (l : Lexer) : Except Fault Lexer := do
  .ok { l with candidate := ← l.giveUp l.candidate }

def offerKey (l : Lexer) : Except Fault Lexer := do
  if !l.keyAllowed then .ok l
  else
    let l ← l.dropCandidate
    let required := !l.inFlow && l.columns.head? == some l.cursor.mark.column
    .ok { l with candidate := some ⟨required, l.taken + l.queue.length, l.cursor.mark⟩ }

/-- Opens a block collection if the column is deeper than all that are open. Its token goes before
those that came after so many others, or behind all. -/
def openBlock (l : Lexer) (column : Nat) (number : Option Nat) (t : Token) (mark : Mark) : Lexer :=
  if l.inFlow || column < l.indent then l
  else
    let l := { l with columns := column :: l.columns }
    match number with
    | some n => l.insert n ⟨t, mark, mark⟩
    | none => l.push ⟨t, mark, mark⟩

def closeBlocks (l : Lexer) (column : Nat) : Lexer :=
  if l.inFlow then l
  else
    let closed := l.columns.takeWhile (column ≤ ·)
    { l with
      columns := l.columns.drop closed.length
      queue := l.queue ++ closed.map fun _ => ⟨.blockEnd, l.cursor.mark, l.cursor.mark⟩ }

def sign (l : Lexer) (t : Token) (length : Nat) : Lexer :=
  let next := l.cursor.skip length
  { l with cursor := next }.push ⟨t, l.cursor.mark, next.mark⟩

/-- Goes past blank space, comments and line breaks. A tab is blank space only where it cannot be
taken for indentation; a byte order mark, where a line begins. -/
def skipSpace : Nat → Lexer → Lexer
  | 0, l => l
  | fuel + 1, l =>
    let c := if l.cursor.mark.column = 0 ∧ l.cursor.char = '\ufeff' then l.cursor.skip 1 else l.cursor
    let tabs := l.inFlow || !l.keyAllowed
    let c := (c.skipWhile fun ch => ch == ' ' || (tabs && ch == '\t')).skipComment
    if isBreak c.char then
      skipSpace fuel { l with cursor := c.skipBreak, keyAllowed := l.keyAllowed || !l.inFlow }
    else { l with cursor := c }

def readEnd (l : Lexer) : Except Fault Lexer := do
  let m := l.cursor.mark
  let m : Mark := if m.column = 0 then m else ⟨m.index, m.line + 1, 0⟩
  let l := { l with cursor.mark := m }.closeBlocks 0
  let l ← l.dropCandidate
  .ok ({ l with keyAllowed := false }.push ⟨.streamEnd, m, m⟩)

def readDirective (l : Lexer) : Except Fault Lexer := do
  let l ← (l.closeBlocks 0).dropCandidate
  let (t, rest) ← Directive.token l.cursor
  .ok ({ l with keyAllowed := false, cursor := rest }.push t)

def readDocumentSign (l : Lexer) (t : Token) : Except Fault Lexer := do
  let l ← (l.closeBlocks 0).dropCandidate
  .ok ({ l with keyAllowed := false }.sign t 3)

def readFlowStart (l : Lexer) (t : Token) : Except Fault Lexer := do
  let l ← l.offerKey
  .ok ({ l with outer := l.candidate :: l.outer, candidate := none, keyAllowed := true }.sign t 1)

def readFlowEnd (l : Lexer) (t : Token) : Except Fault Lexer := do
  let l ← l.dropCandidate
  let l := match l.outer with
    | [] => l
    | k :: outer => { l with candidate := k, outer := outer }
  .ok ({ l with keyAllowed := false }.sign t 1)

def readFlowEntry (l : Lexer) : Except Fault Lexer := do
  let l ← l.dropCandidate
  .ok ({ l with keyAllowed := true }.sign .flowEntry 1)

def readBlockEntry (l : Lexer) : Except Fault Lexer := do
  let m := l.cursor.mark
  if !l.inFlow && !l.keyAllowed then l.fault .entryNotAllowed
  else
    let l ← (l.openBlock m.column none .blockSequenceStart m).dropCandidate
    .ok ({ l with keyAllowed := true }.sign .blockEntry 1)

def readKey (l : Lexer) : Except Fault Lexer := do
  let m := l.cursor.mark
  if !l.inFlow && !l.keyAllowed then l.fault .keyNotAllowed
  else
    let l ← (l.openBlock m.column none .blockMappingStart m).dropCandidate
    .ok ({ l with keyAllowed := !l.inFlow }.sign .key 1)

/-- A colon makes the latest candidate a key, or follows an empty one. -/
def readValue (l : Lexer) : Except Fault Lexer :=
  match l.candidate with
  | some k =>
    let l := (l.insert k.number ⟨.key, k.mark, k.mark⟩).openBlock k.mark.column (some k.number)
      .blockMappingStart k.mark
    .ok ({ l with candidate := none, keyAllowed := false }.sign .value 1)
  | none =>
    let m := l.cursor.mark
    if !l.inFlow && !l.keyAllowed then l.fault .valueNotAllowed
    else
      let l := l.openBlock m.column none .blockMappingStart m
      .ok ({ l with keyAllowed := !l.inFlow }.sign .value 1)

def endsName (c : Char) : Bool := isGap c || ['?', ':', ',', ']', '\x7d', '%', '@', '`'].contains c

def readName (l : Lexer) (activity : Activity) (t : String → Token) : Except Fault Lexer := do
  let l ← l.offerKey
  let start := l.cursor.mark
  let (name, rest) := (l.cursor.skip 1).readWhile isWordChar
  if name.isEmpty || !endsName rest.char then rest.fault .noName activity start
  else
    .ok ({ l with keyAllowed := false, cursor := rest }.push
      ⟨t (String.ofList name), start, rest.mark⟩)

def readTag (l : Lexer) : Except Fault Lexer := do
  let l ← l.offerKey
  let (t, rest) ← Tag.token l.inFlow l.cursor
  .ok ({ l with keyAllowed := false, cursor := rest }.push t)

def readBlockScalar (l : Lexer) : Except Fault Lexer := do
  let l ← l.dropCandidate
  let (t, rest) ← Block.token l.columns.head? l.cursor
  .ok ({ l with keyAllowed := true, cursor := rest }.push t)

def readQuoted (l : Lexer) : Except Fault Lexer := do
  let l ← l.offerKey
  let (t, rest) ← Quoted.token l.cursor
  .ok ({ l with keyAllowed := false, cursor := rest }.push t)

def readPlain (l : Lexer) : Except Fault Lexer := do
  let l ← l.offerKey
  let (t, brokeLine, rest) ← Plain.token l.inFlow l.indent l.cursor
  .ok ({ l with keyAllowed := brokeLine, cursor := rest }.push t)

def isSign (c : Char) : Bool :=
  ['-', '?', ':', ',', '[', ']', '\x7b', '\x7d', '#', '&', '*', '!', '|', '>', '\'', '"', '%', '@',
    '`'].contains c

def atPlain (l : Lexer) : Bool :=
  let c := l.cursor.char
  let next := l.cursor.ahead 1
  (!isGap c && !isSign c) || (c == '-' && !isSpaceOrTab next) ||
    (!l.inFlow && (c == '?' || c == ':') && !isGap next)

def readHere (l : Lexer) : Except Fault Lexer :=
  let c := l.cursor
  let ends := isGap (c.ahead 1)
  if c.char = ending then l.readEnd
  else if c.mark.column = 0 ∧ c.char = '%' then l.readDirective
  else if c.atDocumentSign '-' then l.readDocumentSign .documentStart
  else if c.atDocumentSign '.' then l.readDocumentSign .documentEnd
  else match c.char with
  | '[' => l.readFlowStart .flowSequenceStart
  | '\x7b' => l.readFlowStart .flowMappingStart
  | ']' => l.readFlowEnd .flowSequenceEnd
  | '\x7d' => l.readFlowEnd .flowMappingEnd
  | ',' => l.readFlowEntry
  | '*' => l.readName .alias .alias
  | '&' => l.readName .anchor .anchor
  | '!' => l.readTag
  | '\'' | '"' => l.readQuoted
  | ch =>
    if ch = '-' ∧ ends then l.readBlockEntry
    else if ch = '?' ∧ (l.inFlow ∨ ends) then l.readKey
    else if ch = ':' ∧ (l.inFlow ∨ ends) then l.readValue
    else if (ch = '|' ∨ ch = '>') ∧ !l.inFlow then l.readBlockScalar
    else if l.atPlain then l.readPlain
    else c.fault .noToken .nextToken c.mark

def readMore (l : Lexer) : Except Fault Lexer := do
  let l ← (skipSpace (l.cursor.rest.length + 1) l).dropStale
  (l.closeBlocks (l.cursor.mark.column + 1)).readHere

def isPending (l : Lexer) : Bool :=
  (l.candidate :: l.outer).any fun k => k.any (·.number == l.taken)

/-- Reads on until the first token in the queue is certain. -/
def settle : Nat → Lexer → Except Fault Lexer
  | 0, l => .ok l
  | fuel + 1, l => do
    if l.queue.isEmpty then settle fuel (← l.readMore)
    else
      let l ← l.dropStale
      if l.isPending then settle fuel (← l.readMore) else .ok l

def peek (l : Lexer) : Except Fault (Placed × Lexer) := do
  let l ← settle (l.cursor.rest.length + 2) l
  match l.queue with
  | t :: _ => .ok (t, l)
  | [] => .error .ended

def drop (l : Lexer) : Lexer := { l with queue := l.queue.drop 1, taken := l.taken + 1 }

end Lexer

end Federation.Yaml
