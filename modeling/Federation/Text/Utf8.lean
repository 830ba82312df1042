namespace Federation.Text

/-- The least and greatest second byte that may follow the leading byte of a well-formed sequence,
and the number of continuation bytes in all. A byte that leads no sequence has none. -/
def leadingByte (b : UInt8) : Option (UInt8 × UInt8 × Nat) :=
  if 0xC2 ≤ b && b ≤ 0xDF then some (0x80, 0xBF, 1)
  else if b == 0xE0 then some (0xA0, 0xBF, 2)
  else if b == 0xED then some (0x80, 0x9F, 2)
  else if 0xE1 ≤ b && b ≤ 0xEF then some (0x80, 0xBF, 2)
  else if b == 0xF0 then some (0x90, 0xBF, 3)
  else if 0xF1 ≤ b && b ≤ 0xF3 then some (0x80, 0xBF, 3)
  else if b == 0xF4 then some (0x80, 0x8F, 3)
  else none

def continuation (lo hi : UInt8) : Nat → Nat → List UInt8 → Option Nat × List UInt8
  | 0, acc, bs => (some acc, bs)
  | _ + 1, _, [] => (none, [])
  | n + 1, acc, b :: bs =>
    if lo ≤ b && b ≤ hi then continuation 0x80 0xBF n (acc * 64 + (b.toNat - 0x80)) bs
    else (none, b :: bs)

theorem continuation_length (lo hi : UInt8) (n acc : Nat) (bs : List UInt8) :
    (continuation lo hi n acc bs).2.length ≤ bs.length := by
  induction n generalizing lo hi acc bs with
  | zero => simp [continuation]
  | succ n ih =>
    cases bs with
    | nil => simp [continuation]
    | cons b bs =>
      simp only [continuation]
      split
      · exact Nat.le_succ_of_le (ih ..)
      · simp

/-- One step of decoding: a character, or nothing for a maximal ill-formed part. -/
def nextChar (b : UInt8) (bs : List UInt8) : Option Char × List UInt8 :=
  if b < 0x80 then (some (Char.ofNat b.toNat), bs)
  else match leadingByte b with
    | none => (none, bs)
    | some (lo, hi, n) =>
      let mark := match n with
        | 1 => 0xC0
        | 2 => 0xE0
        | _ => 0xF0
      let (payload, rest) := continuation lo hi n (b.toNat - mark) bs
      (payload.map Char.ofNat, rest)

theorem nextChar_length (b : UInt8) (bs : List UInt8) :
    (nextChar b bs).2.length ≤ bs.length := by
  unfold nextChar
  split
  · simp
  · split
    · simp
    · exact continuation_length ..

def decodeParts : List UInt8 → List (Option Char)
  | [] => []
  | b :: bs => (nextChar b bs).1 :: decodeParts (nextChar b bs).2
termination_by bs => bs.length
decreasing_by
  have := nextChar_length b bs
  simp only [List.length_cons]
  omega

def ofUtf8? (bs : List UInt8) : Option String :=
  (decodeParts bs).mapM id |>.map String.ofList

/-- The text that bytes spell, with U+FFFD for each maximal ill-formed part. -/
def ofUtf8Lossy (bs : List UInt8) : String :=
  String.ofList ((decodeParts bs).map (·.getD '\ufffd'))

def toUtf8 (s : String) : List UInt8 := s.toUTF8.toList

end Federation.Text
