import Federation.Text.Digit
import Federation.Yaml.Token
import Federation.Yaml.Token.Folding

namespace Federation.Yaml.Quoted

inductive Escape
  | char (c : Char)
  | hex (digits : Nat)

def escape? : Char → Option Escape
  | '0' => some (.char '\x00')
  | 'a' => some (.char '\x07')
  | 'b' => some (.char '\x08')
  | 't' | '\t' => some (.char '\t')
  | 'n' => some (.char '\n')
  | 'v' => some (.char '\x0b')
  | 'f' => some (.char '\x0c')
  | 'r' => some (.char '\r')
  | 'e' => some (.char '\x1b')
  | ' ' => some (.char ' ')
  | '"' => some (.char '"')
  | '/' => some (.char '/')
  | '\\' => some (.char '\\')
  | 'N' => some (.char '\u0085')
  | '_' => some (.char '\u00a0')
  | 'L' => some (.char '\u2028')
  | 'P' => some (.char '\u2029')
  | 'x' => some (.hex 2)
  | 'u' => some (.hex 4)
  | 'U' => some (.hex 8)
  | _ => none

def readEscape (start : Mark) (c : Cursor) : Except Fault (Char × Cursor) :=
  match escape? (c.ahead 1) with
  | none => c.fault .unknownEscape .quotedEscape start
  | some (.char ch) => .ok (ch, c.skip 2)
  | some (.hex digits) =>
    let c := c.skip 2
    match Text.number? 16 ((List.range digits).map c.ahead) with
    | none => c.fault .noHexDigit .quotedEscape start
    | some n =>
      if h : n.isValidChar then .ok (Char.ofNatAux n h, c.skip digits)
      else c.fault .badCodePoint .quotedEscape start

/-- Reads up to the next gap or the closing quote; answers the text and what begins the gap. -/
def readRun (double : Bool) (start : Mark) : Nat → Cursor → Except Fault (List Char × Gap × Cursor)
  | 0, c => .ok ([], .empty, c)
  | fuel + 1, c =>
    let ch := c.char
    let next := c.ahead 1
    if isGap ch || (double && ch == '"') || (!double && ch == '\'' && next != '\'') then
      .ok ([], .empty, c)
    else if double && ch == '\\' && isBreak next then .ok ([], .escaped, (c.skip 1).skipBreak)
    else do
      let (made, rest) ←
        if double && ch == '\\' then readEscape start c
        else .ok (ch, c.skip (if !double && ch == '\'' then 2 else 1))
      let (text, gap, rest) ← readRun double start fuel rest
      .ok (made :: text, gap, rest)

def read (double : Bool) (start : Mark) : Nat → Cursor → Except Fault (List Char × Cursor)
  | 0, c => .ok ([], c)
  | fuel + 1, c =>
    if c.atDocumentMark then c.fault .documentMarkInQuotes .quotedScalar start
    else if c.char = ending then c.fault .endInQuotes .quotedScalar start
    else do
      let (text, gap, c) ← readRun double start (c.rest.length + 1) c
      if c.char = (if double then '"' else '\'') then .ok (text, c)
      else
        let (gap, c) := match Gap.read 0 (c.rest.length + 1) gap c with
          | .ok read => read
          | .error _ => (gap, c)
        let (more, rest) ← read double start fuel c
        .ok (text ++ gap.folded ++ more, rest)

def token (c : Cursor) : Except Fault (Placed × Cursor) := do
  let double := c.char == '"'
  let (text, rest) ← read double c.mark (c.rest.length + 1) (c.skip 1)
  let rest := rest.skip 1
  let style : Style := if double then .doubleQuoted else .singleQuoted
  .ok (⟨.scalar (String.ofList text) style, c.mark, rest.mark⟩, rest)

end Federation.Yaml.Quoted
