import Federation.Http.Name
import Federation.Http.Percent

namespace Federation.Http

inductive UrlFault
  | noHost
  | badName
  | badPort
  | badIpv4
  | badIpv6
  | badCharacter
  | noScheme
  deriving DecidableEq, Repr

def UrlFault.message : UrlFault → String
  | .noHost => "empty host"
  | .badName => "invalid international domain name"
  | .badPort => "invalid port number"
  | .badIpv4 => "invalid IPv4 address"
  | .badIpv6 => "invalid IPv6 address"
  | .badCharacter => "invalid domain character"
  | .noScheme => "relative URL without a base"

namespace Host

open Text (splitAt)

/-- One number of an address: hexadecimal behind `0x`, octal behind a nought. Nothing counts as
nought behind `0x`. -/
def number? : List Char → Option Nat
  | [] => none
  | '0' :: 'x' :: cs => Text.number? 16 cs
  | '0' :: 'X' :: cs => Text.number? 16 cs
  | '0' :: c :: cs => Text.number? 8 (c :: cs)
  | cs => Text.number? 10 cs

def dotParts (cs : List Char) : List (List Char) :=
  let parts := splitAt '.' cs
  if 1 < parts.length ∧ parts.getLast? = some [] then parts.dropLast else parts

def endsInNumber (cs : List Char) : Bool :=
  match (dotParts cs).getLast? with
  | some [] | none => false
  | some part => part.all Char.isDigit ||
    match part with
    | '0' :: x :: rest => (x == 'x' || x == 'X') && (Text.number? 16 rest).isSome
    | _ => false

/-- The value of an address: the last number fills all the bytes that the others leave. -/
def ipv4? (cs : List Char) : Option Nat := do
  let numbers ← (dotParts cs).mapM number?
  let last ← numbers.getLast?
  let front := numbers.dropLast
  if 3 < front.length ∨ front.any (255 < ·) ∨ Nat.pow 256 (4 - front.length) ≤ last then none
  else
    some (last + ((List.range front.length).zip front).foldl
      (fun n (i, v) => n + v * Nat.pow 256 (3 - i)) 0)

def ipv4Text (n : Nat) : String :=
  ".".intercalate ([n / 16777216, n / 65536 % 256, n / 256 % 256, n % 256].map toString)

def group? (cs : List Char) : Option Nat :=
  if cs.isEmpty ∨ 4 < cs.length then none else Text.number? 16 cs

def decimalByte? (cs : List Char) : Option Nat :=
  if cs.isEmpty ∨ (1 < cs.length ∧ cs.head? = some '0') then none
  else (Text.number? 10 cs).bind fun n => if n < 256 then some n else none

def embedded? (cs : List Char) : Option (List Nat) := do
  match ← (splitAt '.' cs).mapM decimalByte? with
  | [a, b, c, d] => some [a * 256 + b, c * 256 + d]
  | _ => none

def groups? (isLast : Bool) (cs : List Char) : Option (List Nat) :=
  if cs.isEmpty then some []
  else
    let parts := splitAt ':' cs
    match parts.getLast? with
    | some part =>
      if isLast && part.contains '.' then do
        some ((← parts.dropLast.mapM group?) ++ (← embedded? part))
      else parts.mapM group?
    | none => none

def cutDouble : List Char → Option (List Char × List Char)
  | ':' :: ':' :: rest => some ([], rest)
  | c :: rest => (cutDouble rest).map fun (front, back) => (c :: front, back)
  | [] => none

/-- The eight groups of an address. A double colon stands for one or more groups of nought. -/
def ipv6? (cs : List Char) : Option (List Nat) :=
  match cutDouble cs with
  | none => do
    let groups ← groups? true cs
    if groups.length = 8 then some groups else none
  | some (front, back) => do
    let front ← groups? false front
    let back ← groups? true back
    let missing := 8 - (front.length + back.length)
    if missing = 0 then none else some (front ++ List.replicate missing 0 ++ back)

def longestRun (groups : List Nat) : Option (Nat × Nat) :=
  let runs := (List.range groups.length).map fun i => (i, ((groups.drop i).takeWhile (· == 0)).length)
  runs.foldl (fun best (i, n) =>
    if n < 2 then best
    else match best with
      | some (_, m) => if m < n then some (i, n) else best
      | none => some (i, n)) none

def groupText (n : Nat) : String := String.ofList (Nat.toDigits 16 n)

def ipv6Text (groups : List Nat) : String :=
  let text (gs : List Nat) : String := ":".intercalate (gs.map groupText)
  match longestRun groups with
  | none => text groups
  | some (i, n) => text (groups.take i) ++ "::" ++ text (groups.drop (i + n))

def isForbidden (c : Char) : Bool :=
  ['\x00', '\t', '\n', '\r', ' ', '#', '/', ':', '<', '>', '?', '@', '[', '\\', ']', '^',
    '|'].contains c

def bracketed (cs : List Char) : Except UrlFault String :=
  if cs.getLast? ≠ some ']' then .error .badIpv6
  else match ipv6? (cs.dropLast.drop 1) with
    | some groups => .ok ("[" ++ ipv6Text groups ++ "]")
    | none => .error .badIpv6

def special (cs : List Char) : Except UrlFault String :=
  if cs.head? = some '[' then bracketed cs
  else match (Text.ofUtf8? (unescapeChars cs)).bind fun name => Name.toAscii? name.toList with
    | none => .error .badName
    | some name =>
      if name.isEmpty then .error .noHost
      else if endsInNumber name then
        match ipv4? name with
        | some n => .ok (ipv4Text n)
        | none => .error .badIpv4
      else .ok (String.ofList name)

def other (cs : List Char) : Except UrlFault String :=
  if cs.head? = some '[' then bracketed cs
  else if cs.any isForbidden then .error .badCharacter
  else .ok (escapeText isControl (String.ofList cs))

end Host

end Federation.Http
