import Federation.Double.Shortest
import Federation.Mismatch
import Federation.Text.Digit
import Federation.Yaml.Cursor
import Federation.Yaml.Token

namespace Federation.Yaml

structure Scalar where
  tag : Option Tag
  text : String
  style : Style
  deriving DecidableEq, Repr

namespace Scalar

def isBlank (s : Scalar) : Bool := s.text.isEmpty && s.style == .plain

def isNullWord (s : String) : Bool := ["null", "Null", "NULL", "~"].contains s

def bool? (s : String) : Option Bool :=
  if ["true", "True", "TRUE"].contains s then some true
  else if ["false", "False", "FALSE"].contains s then some false
  else none

def digits? (base : Nat) (cs : List Char) : Option Nat :=
  if cs.isEmpty then none
  else Text.number? base cs

def sign : List Char → Option Bool × List Char
  | '-' :: cs => (some true, cs)
  | '+' :: cs => (some false, cs)
  | cs => (none, cs)

def isPadded (cs : List Char) : Bool :=
  match (sign cs).2 with
  | '0' :: c :: rest => (c :: rest).all Char.isDigit
  | _ => false

/-- The magnitude of a whole number behind its sign, in base ten unless its first characters tell
another base. -/
def magnitude? : List Char → Option Nat
  | '0' :: 'x' :: cs => digits? 16 cs
  | '0' :: 'o' :: cs => digits? 8 cs
  | '0' :: 'b' :: cs => digits? 2 cs
  | cs => digits? 10 cs

def integer? (s : String) : Option Found :=
  let (minus, cs) := sign s.toList
  let minus := minus = some true
  if isPadded cs then none
  else (magnitude? cs).bind fun n =>
    let value : Int := if minus then -n else n
    if (if minus then n ≤ Nat.pow 2 63 else n < Nat.pow 2 64) then some (.integer value)
    else if (if minus then n ≤ Nat.pow 2 127 else n < Nat.pow 2 128) then some (.wideInteger value)
    else none

def exponent? : List Char → Option Int
  | [] => some 0
  | c :: cs =>
    if c = 'e' ∨ c = 'E' then
      let (minus, cs) := sign cs
      (digits? 10 cs).map fun n => if minus = some true then -n else (n : Int)
    else none

def decimal? (negative : Bool) (cs : List Char) : Option Double :=
  let whole := cs.takeWhile Char.isDigit
  let rest := cs.drop whole.length
  let (part, rest) := match rest with
    | '.' :: rest =>
      let part := rest.takeWhile Char.isDigit
      (part, rest.drop part.length)
    | _ => ([], rest)
  match digits? 10 (whole ++ part), exponent? rest with
  | some n, some e =>
    let power := e - part.length
    if n = 0 ∨ power < -400 - (whole.length + part.length : Nat) then some (.zero negative)
    else if 400 < power then none
    else Double.ofDecimal negative n power
  | _, _ => none

def float? (s : String) : Option String :=
  let (minus, cs) := sign s.toList
  let word := String.ofList cs
  if minus ≠ some true ∧ [".inf", ".Inf", ".INF"].contains word then some "inf"
  else if [".inf", ".Inf", ".INF"].contains word then some "-inf"
  else if minus = none ∧ [".nan", ".NaN", ".NAN"].contains word then some "NaN"
  else (decimal? (minus = some true) cs).map (·.plainText)

/-- What a plain scalar without a tag is taken for. -/
def foundPlain (s : String) : Found :=
  if s.isEmpty ∨ isNullWord s then .unit
  else match bool? s, integer? s with
    | some b, _ => .bool b
    | none, some n => n
    | none, none =>
      if isPadded s.toList then .string s
      else match float? s with
        | some text => .float text
        | none => .string s

def mismatch (s : Scalar) (expected : String) : Mismatch :=
  let orBad (found : Option Found) (kind : String) : Mismatch :=
    match found with
    | some f => .invalidType f expected
    | none => .invalidValue (.string s.text) kind
  let plain := .invalidType (foundPlain s.text) expected
  let text := .invalidType (.string s.text) expected
  match s.tag with
  | none => if s.style = .plain then plain else text
  | some tag =>
    if tag = .core "bool" then orBad ((bool? s.text).map .bool) "a boolean"
    else if tag = .core "int" then orBad (integer? s.text) "an integer"
    else if tag = .core "float" then orBad ((float? s.text).map .float) "a float"
    else if tag = .core "null" then
      orBad (if isNullWord s.text then some .unit else none) "null"
    else if tag.isLocal ∧ s.style = .plain then plain
    else text

end Scalar

end Federation.Yaml
