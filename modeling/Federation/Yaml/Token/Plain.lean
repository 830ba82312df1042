import Federation.Yaml.Token
import Federation.Yaml.Token.Folding

namespace Federation.Yaml.Plain

def stops (inFlow : Bool) (cs : List Char) : Bool :=
  match cs with
  | [] => true
  | c :: rest =>
    let next := rest.headD ending
    isGap c || (inFlow && isFlowSign c) ||
      (c == ':' && (isGap next || (inFlow && (isFlowSign next || next == '?'))))

def run (inFlow : Bool) : List Char → List Char
  | [] => []
  | c :: rest => if stops inFlow (c :: rest) then [] else c :: run inFlow rest

structure Draft where
  text : List Char
  stop : Mark
  gap : Gap

def read (inFlow : Bool) (indent : Nat) (start : Mark) :
    Nat → Draft → Cursor → Except Fault (Draft × Cursor)
  | 0, d, c => .ok (d, c)
  | fuel + 1, d, c =>
    if c.atDocumentMark || c.char == '#' then .ok (d, c)
    else
      let word := run inFlow c.rest
      let c := c.skip word.length
      let d : Draft := if word.isEmpty then d else ⟨d.text ++ d.gap.folded ++ word, c.mark, .empty⟩
      if inFlow && c.char == ':' && !isGap (c.ahead 1) then c.fault .colonInPlain .plainScalar start
      else if c.char == ending || !isGap c.char then .ok (d, c)
      else match Gap.read indent (c.rest.length + 1) .empty c with
        | .error tab => .error (.malformed .tabBeforeIndent tab (some ⟨.plainScalar, start⟩))
        | .ok (gap, c) =>
          let d := { d with gap := gap }
          if !inFlow && c.mark.column < indent then .ok (d, c)
          else read inFlow indent start fuel d c

/-- Reads a plain scalar whose lines have to be indented by at least so much. Answers also whether
a line has ended behind it. -/
def token (inFlow : Bool) (indent : Nat) (c : Cursor) : Except Fault (Placed × Bool × Cursor) := do
  let (d, rest) ← read inFlow indent c.mark (c.rest.length + 1) ⟨[], c.mark, .empty⟩ c
  .ok (⟨.scalar (String.ofList d.text) .plain, c.mark, d.stop⟩, d.gap.hasBreak, rest)

end Federation.Yaml.Plain
