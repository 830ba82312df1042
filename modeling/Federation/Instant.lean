import Federation.Text.Blank
import Federation.Text.Digit

namespace Federation

/-- A point in time: whole seconds since the start of 1970 and the nanoseconds after them. In a leap
second the nanoseconds run on from `10 ^ 9`. -/
structure Instant where
  seconds : Int
  nanoseconds : Nat
  deriving DecidableEq, Repr

namespace Instant

inductive Fault
  | outOfRange
  | impossible
  | invalid
  | tooShort
  | tooLong
  deriving DecidableEq, Repr

def Fault.message : Fault → String
  | .outOfRange => "input is out of range"
  | .impossible => "no possible date and time matching input"
  | .invalid => "input contains invalid characters"
  | .tooShort => "premature end of input"
  | .tooLong => "trailing input"

def isLeapYear (y : Int) : Bool := y % 4 == 0 && (y % 100 != 0 || y % 400 == 0)

def daysInMonth (y : Int) (m : Nat) : Nat :=
  if m = 2 then (if isLeapYear y then 29 else 28)
  else if m = 4 ∨ m = 6 ∨ m = 9 ∨ m = 11 then 30 else 31

/-- Days from the start of 1970 to a date of the Gregorian calendar. Years are counted from March,
so that the leap day ends one. -/
def dayNumber (y : Int) (m d : Nat) : Int :=
  let y := if m ≤ 2 then y - 1 else y
  let era := y.fdiv 400
  let yearOfEra := y - era * 400
  let month : Int := ((m + 9) % 12 : Nat)
  let dayOfYear := (153 * month + 2) / 5 + d - 1
  let dayOfEra := yearOfEra * 365 + yearOfEra / 4 - yearOfEra / 100 + dayOfYear
  era * 146097 + dayOfEra - 719468

def dateOf (days : Int) : Int × Nat × Nat :=
  let z := days + 719468
  let era := z.fdiv 146097
  let doe := z - era * 146097
  let yoe := (doe - doe / 1460 + doe / 36524 - doe / 146096) / 365
  let doy := doe - (365 * yoe + yoe / 4 - yoe / 100)
  let mp := (5 * doy + 2) / 153
  let d := doy - (153 * mp + 2) / 5 + 1
  let m := if mp < 10 then mp + 3 else mp - 9
  let y := yoe + era * 400
  (if m ≤ 2 then y + 1 else y, m.toNat, d.toNat)

def leastYear : Int := -262143
def greatestYear : Int := 262142

abbrev Rest := List Char

def skipBlank (cs : Rest) : Rest := cs.dropWhile Text.isBlankChar

def number (most : Nat) (cs : Rest) : Except Fault (Int × Rest) :=
  let ds := (cs.take most).takeWhile Char.isDigit
  if cs.isEmpty then .error .tooShort
  else if ds.isEmpty then .error .invalid
  else
    let n := (Text.number? 10 ds).getD 0
    if Nat.pow 2 63 ≤ n then .error .outOfRange else .ok (n, cs.drop ds.length)

def part (low high : Int) (cs : Rest) : Except Fault (Nat × Rest) := do
  let (n, rest) ← number 2 (skipBlank cs)
  if n < low ∨ high < n then .error .outOfRange else .ok (n.toNat, rest)

def year (cs : Rest) : Except Fault (Int × Rest) := do
  let cs := skipBlank cs
  let (n, rest) ← match cs with
    | '-' :: more => (number more.length more).map fun (n, rest) => (-n, rest)
    | '+' :: more => number more.length more
    | _ => number 4 cs
  if n < -Int.pow 2 31 ∨ Int.pow 2 31 ≤ n then .error .outOfRange else .ok (n, rest)

def separator (c : Char) (cs : Rest) : Except Fault Rest :=
  match skipBlank cs with
  | [] => .error .tooShort
  | d :: rest => if d = c then .ok rest else .error .invalid

def fraction : Rest → Except Fault (Nat × Rest)
  | '.' :: cs => do
    let (n, rest) ← number 9 cs
    .ok (n.toNat * Nat.pow 10 (9 - (cs.length - rest.length)), rest.dropWhile Char.isDigit)
  | cs => .ok (0, cs)

def offsetPart (cs : Rest) : Except Fault (Nat × Rest) :=
  match cs with
  | a :: b :: rest =>
    match Text.number? 10 [a, b] with
    | some n => .ok (n, rest)
    | none => .error .invalid
  | [a] => if a.utf8Size = 1 then .error .tooShort else .error .invalid
  | [] => .error .tooShort

def offset (cs : Rest) : Except Fault (Int × Rest) :=
  match cs with
  | [] => .error .tooShort
  | c :: rest =>
    if c = 'Z' ∨ c = 'z' then .ok (0, rest)
    else if (cs.take 3).map Char.toLower = ['u', 't', 'c'] then .ok (0, cs.drop 3)
    else if c = '+' ∨ c = '-' ∨ c = '\u2212' then do
      let (hours, rest) ← offsetPart rest
      let rest := rest.dropWhile fun c => c = ':' || Text.isBlankChar c
      let (minutes, rest) ← offsetPart rest
      if 60 ≤ minutes then .error .outOfRange
      else
        let seconds : Int := hours * 3600 + minutes * 60
        .ok (if c = '+' then seconds else -seconds, rest)
    else .error .invalid

def divider : Rest → Except Fault Rest
  | [] => .error .tooShort
  | c :: rest => if c = 'T' ∨ c = 't' ∨ c = ' ' then .ok rest else .error .invalid

/-- Reads a date and time with its offset; blanks may stand between the parts. -/
def ofText (s : String) : Except Fault Instant := do
  let (y, cs) ← year s.toList
  let cs ← separator '-' cs
  let (mo, cs) ← part 1 12 cs
  let cs ← separator '-' cs
  let (d, cs) ← part 1 31 cs
  let cs ← divider cs
  let (h, cs) ← part 0 23 cs
  let cs ← separator ':' cs
  let (mi, cs) ← part 0 59 cs
  let cs ← separator ':' cs
  let (sec, cs) ← part 0 60 cs
  let (nano, cs) ← fraction cs
  let (off, cs) ← offset (skipBlank cs)
  if !(skipBlank cs).isEmpty then .error .tooLong
  else if y < leastYear ∨ greatestYear < y ∨ daysInMonth y mo < d then .error .outOfRange
  else if off ≤ -86400 ∨ 86400 ≤ off then .error .outOfRange
  else
    let whole : Int := dayNumber y mo d * 86400 + h * 3600 + mi * 60 + min sec 59 - off
    let y := (dateOf (whole.fdiv 86400)).1
    if y < leastYear ∨ greatestYear < y then .error .impossible
    else .ok ⟨whole, if sec = 60 then 1000000000 + nano else nano⟩

def padded (width n : Nat) : String :=
  let ds := Nat.toDigits 10 n
  String.ofList (List.replicate (width - ds.length) '0' ++ ds)

def yearText (y : Int) : String :=
  if 0 ≤ y ∧ y ≤ 9999 then padded 4 y.toNat
  else (if y < 0 then "-" else "+") ++ padded 4 y.natAbs

def fractionText (nano : Nat) : String :=
  if nano = 0 then ""
  else if nano % 1000000 = 0 then "." ++ padded 3 (nano / 1000000)
  else if nano % 1000 = 0 then "." ++ padded 6 (nano / 1000)
  else "." ++ padded 9 nano

def text (t : Instant) : String :=
  let (y, mo, d) := dateOf (t.seconds.fdiv 86400)
  let second := (t.seconds.fmod 86400).toNat
  let leap := t.nanoseconds / 1000000000
  yearText y ++ "-" ++ padded 2 mo ++ "-" ++ padded 2 d ++ "T" ++ padded 2 (second / 3600) ++ ":" ++
    padded 2 (second / 60 % 60) ++ ":" ++ padded 2 (second % 60 + leap) ++
    fractionText (t.nanoseconds % 1000000000) ++ "Z"

end Instant

end Federation
