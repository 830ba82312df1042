import Federation.Text.Digit

namespace Federation.Text.Punycode

def base : Nat := 36

def firstCode : Nat := 0x80

def firstBias : Nat := 72

def digitOf? (c : Char) : Option Nat :=
  if 'a' ≤ c ∧ c ≤ 'z' then some (c.toNat - 'a'.toNat)
  else if 'A' ≤ c ∧ c ≤ 'Z' then some (c.toNat - 'A'.toNat)
  else if '0' ≤ c ∧ c ≤ '9' then some (c.toNat - '0'.toNat + 26)
  else none

def digit (n : Nat) : Char := Char.ofNat (if n < 26 then 'a'.toNat + n else '0'.toNat + n - 26)

/-- The digit at a position is the last one if it is below the threshold. Positions are counted in
steps of the base. -/
def threshold (bias position : Nat) : Nat := min 26 (max 1 (position - bias))

theorem threshold_pos (bias position : Nat) : 0 < threshold bias position := by
  unfold threshold
  omega

def reduce (distance : Nat) : Nat × Nat :=
  if 455 < distance then
    let (rest, count) := reduce (distance / 35)
    (rest, count + 1)
  else (distance, 0)

def adapt (distance places : Nat) (isFirst : Bool) : Nat :=
  let scaled := distance / (if isFirst then 700 else 2)
  let (rest, count) := reduce (scaled + scaled / places)
  base * count + base * rest / (rest + 38)

def limit : Nat := Nat.pow 2 32

def readDistance (bias : Nat) : Nat → Nat → Nat → List Char → Option (Nat × List Char)
  | _, _, _, [] => none
  | position, weight, sum, c :: cs =>
    (digitOf? c).bind fun d =>
      let t := threshold bias position
      let sum := sum + d * weight
      if limit ≤ sum then none
      else if d < t then some (sum, cs)
      else if limit ≤ weight * (base - t) then none
      else readDistance bias (position + base) (weight * (base - t)) sum cs

theorem readDistance_length {bias position weight sum : Nat} {cs : List Char}
    {r : Nat × List Char} (h : readDistance bias position weight sum cs = some r) :
    r.2.length < cs.length := by
  induction cs generalizing position weight sum with
  | nil => simp [readDistance] at h
  | cons c cs ih =>
    simp only [readDistance, Option.bind_eq_some_iff] at h
    obtain ⟨d, -, h⟩ := h
    split at h
    · simp at h
    · split at h
      · obtain rfl := Option.some.inj h
        simp
      · split at h
        · simp at h
        · exact Nat.lt_succ_of_lt (ih h)

def putIn (place code bias : Nat) (isFirst : Bool) (text : List Char) (cs : List Char) :
    Option (List Char) :=
  if cs.isEmpty then some text
  else match _h : readDistance bias base 1 place cs with
    | none => none
    | some (sum, rest) =>
      let places := text.length + 1
      let code := code + sum / places
      if code.isValidChar then
        putIn (sum % places + 1) code (adapt (sum - place) places isFirst) false
          (text.insertIdx (sum % places) (Char.ofNat code)) rest
      else none
termination_by cs.length
decreasing_by exact readDistance_length _h

def cut (cs : List Char) : List Char × List Char :=
  let back := (cs.reverse.takeWhile (· ≠ '-')).reverse
  let front := cs.take (cs.length - back.length - 1)
  if front.isEmpty then ([], cs) else (front, back)

def decode (cs : List Char) : Option (List Char) :=
  let (plain, distances) := cut cs
  putIn 0 firstCode firstBias true plain distances

def writeDistance (bias position distance : Nat) : List Char :=
  let t := threshold bias position
  if distance < t then [digit distance]
  else
    digit (t + (distance - t) % (base - t)) ::
      writeDistance bias (position + base) ((distance - t) / (base - t))
termination_by distance
decreasing_by
  have := threshold_pos bias position
  have := Nat.div_le_self (distance - threshold bias position) (base - threshold bias position)
  omega

structure Draft where
  written : List Char
  distance : Nat
  bias : Nat
  count : Nat

def step (code : Nat) (isFirst : Nat → Bool) (d : Draft) (c : Char) : Draft :=
  if c.toNat < code then { d with distance := d.distance + 1 }
  else if c.toNat = code then
    ⟨d.written ++ writeDistance d.bias base d.distance, 0,
      adapt d.distance (d.count + 1) (isFirst d.count), d.count + 1⟩
  else d

def writeCodes (text : List Char) (isFirst : Nat → Bool) : Nat → List Nat → Draft → Draft
  | _, [], d => d
  | last, code :: codes, d =>
    let d := { d with distance := d.distance + (code - last) * (d.count + 1) }
    let d := text.foldl (step code isFirst) d
    writeCodes text isFirst (code + 1) codes { d with distance := d.distance + 1 }

def insertCode (n : Nat) : List Nat → List Nat
  | [] => [n]
  | m :: ms => if n < m then n :: m :: ms else if n = m then m :: ms else m :: insertCode n ms

/-- Writes any text in letters, digits and hyphens: what is ASCII first, then where the other
characters have to be put in, in the order of their code points. A place is told as the distance
from the place before, counted over all places for all code points. -/
def encode (cs : List Char) : List Char :=
  let plain := cs.filter (·.toNat < firstCode)
  let codes := (cs.map Char.toNat).filter (firstCode ≤ ·)
  let codes := codes.foldr insertCode []
  let d := writeCodes cs (· == plain.length) firstCode codes ⟨[], 0, firstBias, plain.length⟩
  plain ++ (if plain.isEmpty then [] else ['-']) ++ d.written

end Federation.Text.Punycode
