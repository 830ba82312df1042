import Federation.Text.Digit
import Federation.Text.Utf8

namespace Federation.Http

def hexDigit (n : Nat) : Char :=
  Char.ofNat (if n < 10 then 0x30 + n else 0x41 + n - 10)

def escapeByte (b : UInt8) : List Char := ['%', hexDigit (b.toNat / 16), hexDigit (b.toNat % 16)]

/-- The bytes of a text as characters, those in a set written with `%`. Bytes outside ASCII should
be in the set. -/
def escapeBytes (escaped : UInt8 → Bool) (bs : List UInt8) : List Char :=
  bs.flatMap fun b => if escaped b then escapeByte b else [Char.ofNat b.toNat]

def escapeText (escaped : UInt8 → Bool) (s : String) : String :=
  String.ofList (escapeBytes escaped (Text.toUtf8 s))

def unescapeChars : List Char → List UInt8
  | [] => []
  | [c] => Text.toUtf8 (String.singleton c)
  | [c, d] => Text.toUtf8 (String.ofList [c, d])
  | c :: a :: b :: rest =>
    match c, Text.number? 16 [a, b] with
    | '%', some n => n.toUInt8 :: unescapeChars rest
    | _, _ => Text.toUtf8 (String.singleton c) ++ unescapeChars (a :: b :: rest)

def isControl (b : UInt8) : Bool := b < 0x20 || 0x7E < b

def isControlOr (cs : List Char) (b : UInt8) : Bool :=
  isControl b || cs.any fun c => c.toNat == b.toNat

end Federation.Http
