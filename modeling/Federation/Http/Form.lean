import Federation.Http.Percent

namespace Federation.Http.Form

def isPlain (b : UInt8) : Bool :=
  (0x30 ≤ b && b ≤ 0x39) || (0x41 ≤ b && b ≤ 0x5A) || (0x61 ≤ b && b ≤ 0x7A) ||
    b == 0x2A || b == 0x2D || b == 0x2E || b == 0x5F

def encodeByte (b : UInt8) : List Char :=
  if b = 0x20 then ['+'] else if isPlain b then [Char.ofNat b.toNat] else escapeByte b

def encodePart (s : String) : List Char := (Text.toUtf8 s).flatMap encodeByte

def encodeField (field : String × String) : List Char :=
  encodePart field.1 ++ '=' :: encodePart field.2

/-- Names and values as one text, in which they can be told apart. -/
def encode (fields : List (String × String)) : String :=
  String.ofList (['&'].intercalate (fields.map encodeField))

end Federation.Http.Form
