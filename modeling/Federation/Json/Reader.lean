import Federation.Json.Number
import Federation.Text.Utf8

namespace Federation.Json

inductive Fault
  | unfinishedArray
  | unfinishedObject
  | unfinishedString
  | unfinishedValue
  | noColon
  | noCommaInArray
  | noCommaInObject
  | badWord
  | noValue
  | badEscape
  | badNumber
  | numberTooLarge
  | badCodePoint
  | controlInString
  | keyNotString
  | loneSurrogate
  | trailingComma
  | trailingCharacters
  | unfinishedEscape
  | tooDeep
  deriving DecidableEq, Repr

def Fault.message : Fault → String
  | .unfinishedArray => "EOF while parsing a list"
  | .unfinishedObject => "EOF while parsing an object"
  | .unfinishedString => "EOF while parsing a string"
  | .unfinishedValue => "EOF while parsing a value"
  | .noColon => "expected `:`"
  | .noCommaInArray => "expected `,` or `]`"
  | .noCommaInObject => "expected `,` or `\x7d`"
  | .badWord => "expected ident"
  | .noValue => "expected value"
  | .badEscape => "invalid escape"
  | .badNumber => "invalid number"
  | .numberTooLarge => "number out of range"
  | .badCodePoint => "invalid unicode code point"
  | .controlInString => "control character (\\u0000-\\u001F) found while parsing a string"
  | .keyNotString => "key must be a string"
  | .loneSurrogate => "lone leading surrogate in hex escape"
  | .trailingComma => "trailing comma"
  | .trailingCharacters => "trailing characters"
  | .unfinishedEscape => "unexpected end of hex escape"
  | .tooDeep => "recursion limit exceeded"

structure Stop where
  fault : Fault
  left : Nat

def stop {α : Type} (fault : Fault) (rest : List UInt8) : Except Stop α :=
  .error ⟨fault, rest.length⟩

def stopAt {α : Type} (fault : Fault) (rest : List UInt8) : Except Stop α :=
  .error ⟨fault, rest.length - 1⟩

namespace Reader

def isSpace (b : UInt8) : Bool := b == 0x20 || b == 0x0A || b == 0x09 || b == 0x0D

def isDigit (b : UInt8) : Bool := 0x30 ≤ b && b ≤ 0x39

def digit (b : UInt8) : Nat := b.toNat - 0x30

def skipSpace (bs : List UInt8) : List UInt8 := bs.dropWhile isSpace

def byte (c : Char) : UInt8 := c.toNat.toUInt8

def word : List Char → List UInt8 → Except Stop (List UInt8)
  | [], bs => .ok bs
  | _ :: _, [] => stop .unfinishedValue []
  | c :: cs, b :: bs => if b = byte c then word cs bs else stop .badWord bs

def addDigits : Nat → Nat → List UInt8 → Nat × Nat × List UInt8
  | n, count, [] => (n, count, [])
  | n, count, b :: bs =>
    if isDigit b ∧ n * 10 + digit b ≤ greatestInteger then
      addDigits (n * 10 + digit b) (count + 1) bs
    else (n, count, b :: bs)

def finishDouble (negative : Bool) (d : Digits) (rest : List UInt8) : Except Stop (Json × List UInt8) :=
  match d.toDouble negative with
  | some x => .ok (.double x, rest)
  | none => stop .numberTooLarge rest

/-- Adds digits to an exponent while it stays below `2 ^ 31`; the digit that would pass the bound
is read too. -/
def exponentDigits : Nat → List UInt8 → Option Nat × List UInt8
  | n, [] => (some n, [])
  | n, b :: bs =>
    if isDigit b then
      if n * 10 + digit b < Nat.pow 2 31 then exponentDigits (n * 10 + digit b) bs else (none, bs)
    else (some n, b :: bs)

def exponent (negative : Bool) (d : Digits) (bs : List UInt8) : Except Stop (Json × List UInt8) :=
  let (below, bs) := match bs with
    | b :: rest =>
      if b = byte '-' then (true, rest) else if b = byte '+' then (false, rest) else (false, bs)
    | [] => (false, [])
  match bs with
  | [] => stop .unfinishedValue []
  | b :: rest =>
    if !isDigit b then stop .badNumber rest
    else match exponentDigits (digit b) rest with
      | (some e, rest) =>
        finishDouble negative { d with power := d.power + (if below then -(e : Int) else e) } rest
      | (none, rest) =>
        if d.significand ≠ 0 ∧ !below then stop .numberTooLarge rest
        else .ok (.double (.zero negative), rest.dropWhile isDigit)

def isExponentLetter (b : UInt8) : Bool := b == byte 'e' || b == byte 'E'

def afterPoint (negative : Bool) (d : Digits) (bs : List UInt8) : Except Stop (Json × List UInt8) :=
  match bs with
  | b :: rest => if isExponentLetter b then exponent negative d rest else finishDouble negative d bs
  | [] => finishDouble negative d []

def decimals (negative : Bool) (d : Digits) (bs : List UInt8) : Except Stop (Json × List UInt8) :=
  let (n, count, rest) := addDigits d.significand 0 bs
  let d : Digits := ⟨n, d.power - count⟩
  match rest with
  | b :: _ =>
    if isDigit b then afterPoint negative d (rest.dropWhile isDigit)
    else if count = 0 then stopAt .badNumber rest
    else afterPoint negative d rest
  | [] => if count = 0 then stopAt .unfinishedValue [] else afterPoint negative d []

def afterWhole (negative : Bool) (d : Digits) (bs : List UInt8) : Except Stop (Json × List UInt8) :=
  let whole : Except Stop (Json × List UInt8) :=
    if d.power = 0 then .ok (ofWhole negative d.significand, bs) else finishDouble negative d bs
  match bs with
  | b :: rest =>
    if b = byte '.' then decimals negative d rest
    else if isExponentLetter b then exponent negative d rest
    else whole
  | [] => whole

def number (negative : Bool) : List UInt8 → Except Stop (Json × List UInt8)
  | [] => stop .unfinishedValue []
  | b :: bs =>
    if b = byte '0' then
      match bs with
      | c :: _ => if isDigit c then stopAt .badNumber bs else afterWhole negative ⟨0, 0⟩ bs
      | [] => afterWhole negative ⟨0, 0⟩ []
    else if isDigit b then
      let (n, _, rest) := addDigits (digit b) 0 bs
      let more := rest.takeWhile isDigit
      afterWhole negative ⟨n, more.length⟩ (rest.drop more.length)
    else stop .badNumber bs

def hexValue (b : UInt8) : Option Nat :=
  if isDigit b then some (digit b)
  else if byte 'a' ≤ b ∧ b ≤ byte 'f' then some (b.toNat - 87)
  else if byte 'A' ≤ b ∧ b ≤ byte 'F' then some (b.toNat - 55)
  else none

def hexEscape : List UInt8 → Except Stop (Nat × List UInt8)
  | a :: b :: c :: d :: rest =>
    match hexValue a, hexValue b, hexValue c, hexValue d with
    | some a, some b, some c, some d => .ok (((a * 16 + b) * 16 + c) * 16 + d, rest)
    | _, _, _, _ => stop .badEscape rest
  | _ => stop .unfinishedString []

def secondHalf (first : Nat) : List UInt8 → Except Stop (Nat × List UInt8)
  | [] => stop .unfinishedString []
  | b :: bs =>
    if b ≠ byte '\\' then stop .unfinishedEscape bs
    else match bs with
      | [] => stop .unfinishedString []
      | c :: cs =>
        if c ≠ byte 'u' then stop .unfinishedEscape cs
        else do
          let (second, rest) ← hexEscape cs
          if second < 0xDC00 ∨ 0xDFFF < second then stop .loneSurrogate rest
          else .ok (0x10000 + (first - 0xD800) * 0x400 + (second - 0xDC00), rest)

def codePoint (bs : List UInt8) : Except Stop (Nat × List UInt8) := do
  let (n, rest) ← hexEscape bs
  if 0xDC00 ≤ n ∧ n ≤ 0xDFFF then stop .loneSurrogate rest
  else if 0xD800 ≤ n ∧ n ≤ 0xDBFF then secondHalf n rest
  else .ok (n, rest)

def escape : List UInt8 → Except Stop (List UInt8 × List UInt8)
  | [] => stop .unfinishedString []
  | b :: bs =>
    if b = byte 'u' then do
      let (n, rest) ← codePoint bs
      .ok (Text.toUtf8 (String.singleton (Char.ofNat n)), rest)
    else if b = byte 'b' then .ok ([0x08], bs)
    else if b = byte 'f' then .ok ([0x0C], bs)
    else if b = byte 'n' then .ok ([0x0A], bs)
    else if b = byte 'r' then .ok ([0x0D], bs)
    else if b = byte 't' then .ok ([0x09], bs)
    else if b = byte '"' ∨ b = byte '\\' ∨ b = byte '/' then .ok ([b], bs)
    else stop .badEscape bs

/-- Reads a string behind its opening quote; `seen` holds the bytes so far, last first. Each round
uses at least one byte, so as much fuel as there are bytes is enough. -/
def stringBody : Nat → List UInt8 → List UInt8 → Except Stop (String × List UInt8)
  | 0, _, bs => stop .unfinishedString bs
  | _ + 1, _, [] => stop .unfinishedString []
  | fuel + 1, seen, b :: bs =>
    if b = byte '"' then
      match Text.ofUtf8? seen.reverse with
      | some s => .ok (s, bs)
      | none => stop .badCodePoint bs
    else if b = byte '\\' then do
      let (made, rest) ← escape bs
      stringBody fuel (made.reverse ++ seen) rest
    else if b < 0x20 then stop .controlInString bs
    else stringBody fuel (b :: seen) bs

def string (bs : List UInt8) : Except Stop (String × List UInt8) := stringBody (bs.length + 1) [] bs

def colon (bs : List UInt8) : Except Stop (List UInt8) :=
  match skipSpace bs with
  | [] => stopAt .unfinishedObject []
  | b :: rest => if b = byte ':' then .ok rest else stopAt .noColon (b :: rest)

mutual

/-- Reads a value. `depth` is one more than the levels of nesting still allowed. -/
def value : Nat → Nat → List UInt8 → Except Stop (Json × List UInt8)
  | 0, _, bs => stop .tooDeep bs
  | fuel + 1, depth, bs =>
    match skipSpace bs with
    | [] => stopAt .unfinishedValue []
    | b :: rest =>
      if b = byte 'n' then (word ['u', 'l', 'l'] rest).map (.null, ·)
      else if b = byte 't' then (word ['r', 'u', 'e'] rest).map (.bool true, ·)
      else if b = byte 'f' then (word ['a', 'l', 's', 'e'] rest).map (.bool false, ·)
      else if b = byte '-' then number true rest
      else if isDigit b then number false (b :: rest)
      else if b = byte '"' then (string rest).map fun (s, rest) => (.string s, rest)
      else if b = byte '[' then
        if depth ≤ 1 then stopAt .tooDeep (b :: rest)
        else (items fuel (depth - 1) true rest).map fun (vs, rest) => (.array vs, rest)
      else if b = byte '\x7b' then
        if depth ≤ 1 then stopAt .tooDeep (b :: rest)
        else (members fuel (depth - 1) true [] rest).map fun (fs, rest) => (.object fs, rest)
      else stopAt .noValue (b :: rest)

def items : Nat → Nat → Bool → List UInt8 → Except Stop (List Json × List UInt8)
  | 0, _, _, bs => stop .tooDeep bs
  | fuel + 1, depth, first, bs =>
    match skipSpace bs with
    | [] => stopAt .unfinishedArray []
    | b :: rest =>
      if b = byte ']' then .ok ([], rest)
      else if first then item fuel depth (b :: rest)
      else if b = byte ',' then
        match skipSpace rest with
        | [] => stopAt .unfinishedValue []
        | c :: more =>
          if c = byte ']' then stopAt .trailingComma (c :: more) else item fuel depth (c :: more)
      else stopAt .noCommaInArray (b :: rest)

def item : Nat → Nat → List UInt8 → Except Stop (List Json × List UInt8)
  | 0, _, bs => stop .tooDeep bs
  | fuel + 1, depth, bs => do
    let (v, rest) ← value fuel depth bs
    let (vs, rest) ← items fuel depth false rest
    .ok (v :: vs, rest)

def members :
    Nat → Nat → Bool → List (String × Json) → List UInt8 →
      Except Stop (List (String × Json) × List UInt8)
  | 0, _, _, _, bs => stop .tooDeep bs
  | fuel + 1, depth, first, seen, bs =>
    match skipSpace bs with
    | [] => stopAt .unfinishedObject []
    | b :: rest =>
      if b = byte '\x7d' then .ok (seen, rest)
      else if first then
        if b = byte '"' then member fuel depth seen rest else stopAt .keyNotString (b :: rest)
      else if b = byte ',' then
        match skipSpace rest with
        | [] => stopAt .unfinishedValue []
        | c :: more =>
          if c = byte '"' then member fuel depth seen more
          else if c = byte '\x7d' then stopAt .trailingComma (c :: more)
          else stopAt .keyNotString (c :: more)
      else stopAt .noCommaInObject (b :: rest)

def member :
    Nat → Nat → List (String × Json) → List UInt8 →
      Except Stop (List (String × Json) × List UInt8)
  | 0, _, _, bs => stop .tooDeep bs
  | fuel + 1, depth, seen, bs => do
    let (key, rest) ← string bs
    let rest ← colon rest
    let (v, rest) ← value fuel depth rest
    members fuel depth false (put key v seen) rest

end

end Reader

structure ReadError where
  fault : Fault
  line : Nat
  column : Nat
  deriving DecidableEq, Repr

def ReadError.message (e : ReadError) : String :=
  e.fault.message ++ " at line " ++ toString e.line ++ " column " ++ toString e.column

def Stop.locate (e : Stop) (bs : List UInt8) : ReadError :=
  let before := bs.take (bs.length - e.left)
  ⟨e.fault, 1 + before.count 0x0A, (before.reverse.takeWhile (· ≠ 0x0A)).length⟩

/-- Reads bytes that hold one value and nothing else but space. Arrays and objects nest at most
127 deep. -/
def ofBytes (bs : List UInt8) : Except ReadError Json :=
  let read : Except Stop Json := do
    let (v, rest) ← Reader.value (3 * bs.length + 3) 128 bs
    match Reader.skipSpace rest with
    | [] => .ok v
    | rest => stopAt .trailingCharacters rest
  read.mapError (·.locate bs)

def ofText (s : String) : Except ReadError Json := ofBytes (Text.toUtf8 s)

end Federation.Json
