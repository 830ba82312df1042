import Federation.Text.Digit

namespace Federation

structure Uuid where
  number : Nat
  deriving DecidableEq, Repr

namespace Uuid

inductive Fault
  | badCharacter (c : Char) (place : Nat)
  | length (bytes : Nat)
  | groupCount (count : Nat)
  | groupLength (group length : Nat)
  deriving DecidableEq, Repr

def groupLengths : List Nat := [8, 4, 4, 4, 12]

def Fault.message : Fault → String
  | .badCharacter c place => "invalid character: found `" ++ c.toString ++ "` at " ++ toString place
  | .length n => "invalid length: found " ++ toString n
  | .groupCount n => "invalid group count: expected 5, found " ++ toString n
  | .groupLength g n =>
    "invalid group length in group " ++ toString g ++ ": expected " ++
      toString (groupLengths.getD g 0) ++ ", found " ++ toString n

def ungroup : List Nat → List Char → Option (List Char)
  | [], cs => if cs.isEmpty then some [] else none
  | [n], cs => if cs.length = n then some cs else none
  | n :: ns, cs =>
    match cs.drop n with
    | '-' :: rest => (ungroup ns rest).map (cs.take n ++ ·)
    | _ => none

def resourceMark : List Char := "urn:uuid:".toList

def unwrap (cs : List Char) : Option (List Char) :=
  if (cs.take resourceMark.length).map Char.toLower = resourceMark then
    some (cs.drop resourceMark.length)
  else if cs.head? = some '\x7b' ∧ cs.getLast? = some '\x7d' then some (cs.drop 1).dropLast
  else none

def utf8Length (cs : List Char) : Nat := cs.foldr (fun c n => c.utf8Size + n) 0

def stranger : Nat → List Char → Option (Char × Nat)
  | _, [] => none
  | place, c :: cs =>
    if c = '-' ∨ (Text.digitValue? c).isSome then stranger (place + c.utf8Size) cs else some (c, place)

def groups (cs : List Char) : List Nat := (String.ofList cs).splitOn "-" |>.map (·.length)

def maxLength : Nat := 45

/-- What is wrong with a text that is no identifier. Places and lengths are those of the text
without its wrapping. -/
def diagnose (cs : List Char) : Fault :=
  let body := (unwrap cs).getD cs
  if maxLength < utf8Length cs then .length (utf8Length cs)
  else match stranger 0 body with
    | some (c, place) => .badCharacter c place
    | none =>
      let gs := groups body
      if gs.length = 1 ∧ (unwrap cs).isNone then .length (utf8Length cs)
      else if gs.length ≠ 5 then .groupCount gs.length
      else
        let g := ((gs.zip groupLengths).findIdx? fun (n, m) => n ≠ m).getD 4
        .groupLength g (gs.getD g 0)

/-- Reads an identifier written as 32 digits or in hyphenated groups, the latter also in braces or
as a resource name. -/
def ofText (s : String) : Except Fault Uuid :=
  let cs := s.toList
  let digits := if cs.length = 32 then some cs else ungroup groupLengths ((unwrap cs).getD cs)
  match digits.bind (Text.number? 16) with
  | some n => .ok ⟨n⟩
  | none => .error (diagnose cs)

def text (u : Uuid) : String :=
  let digits := Nat.toDigits 16 u.number
  let ds := List.replicate (32 - digits.length) '0' ++ digits
  String.ofList (ds.take 8 ++ ['-'] ++ (ds.drop 8).take 4 ++ ['-'] ++ (ds.drop 12).take 4 ++ ['-'] ++
    (ds.drop 16).take 4 ++ ['-'] ++ ds.drop 20)

end Uuid

end Federation
