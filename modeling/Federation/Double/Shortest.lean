import Federation.Double.Basic

namespace Federation.Double

/-- The numbers that round to a given double lie between two ends, given here as quotients over
one denominator. -/
structure Span where
  value : Nat
  low : Nat
  high : Nat
  den : Nat
  closed : Bool

/-- The span of a positive double. The lower neighbour of a power of two is nearer by half. -/
def span (x : Double) : Span :=
  let (n, d) := x.fraction
  let step := if 0 ≤ x.exponent then Nat.pow 2 x.exponent.toNat else 1
  let low := if x.significand = Nat.pow 2 52 ∧ leastExponent < x.exponent then step else 2 * step
  ⟨4 * n, 4 * n - low, 4 * n + 2 * step, 4 * d, x.significand % 2 == 0⟩

def Span.holds (s : Span) (point unit : Nat) : Bool :=
  let p := point * s.den
  let l := s.low * unit
  let h := s.high * unit
  if s.closed then l ≤ p && p ≤ h else l < p && p < h

structure Decimal where
  digits : Nat
  power : Int
  deriving DecidableEq, Repr

def Span.magnitude (s : Span) : Int :=
  if s.den ≤ s.value then ((Nat.toDigits 10 (s.value / s.den)).length : Int)
  else
    let n := (Nat.toDigits 10 (s.den / s.value)).length
    if s.den ≤ s.value * Nat.pow 10 (n - 1) then 2 - (n : Int) else 1 - (n : Int)

def Span.inUnits (s : Span) (power : Int) : Span :=
  if 0 ≤ power then { s with den := s.den * Nat.pow 10 power.toNat }
  else
    let f := Nat.pow 10 (-power).toNat
    { s with value := s.value * f, low := s.low * f, high := s.high * f }

def Span.gridPoint (s : Span) (power : Int) : Option Decimal :=
  let u := s.inUnits power
  let below := u.value / u.den
  let above := below + 1
  let twice := 2 * (u.value % u.den)
  let belowFirst := twice < u.den || (twice == u.den && below % 2 == 0)
  let order := if belowFirst then [below, above] else [above, below]
  order.find? (fun p => u.holds p 1) |>.map (⟨·, power⟩)

def Decimal.strip : Nat → Decimal → Decimal
  | 0, x => x
  | n + 1, x =>
    if x.digits ≠ 0 ∧ x.digits % 10 = 0 then strip n ⟨x.digits / 10, x.power + 1⟩ else x

/-- The decimal with the fewest digits that rounds to a positive double, and of those the one
nearest to it. Seventeen digits always suffice. -/
def shortest (x : Double) : Decimal :=
  let s := x.span
  let k := s.magnitude
  let found := (List.range 17).findSome? fun i => s.gridPoint (k - (i + 1 : Nat))
  (found.getD ⟨0, 0⟩).strip 20

def digitString (n : Nat) : String := String.ofList (Nat.toDigits 10 n)

def zeros (n : Nat) : String := String.ofList (List.replicate n '0')

def signed (x : Double) (magnitude : String) : String :=
  if x.negative then "-" ++ magnitude else magnitude

def Decimal.positional (x : Decimal) : String :=
  let ds := digitString x.digits
  let k : Int := ds.length + x.power
  if 0 ≤ x.power then ds ++ zeros x.power.toNat ++ ".0"
  else if 0 < k then
    String.ofList (ds.toList.take k.toNat) ++ "." ++ String.ofList (ds.toList.drop k.toNat)
  else "0." ++ zeros (-k).toNat ++ ds

def Decimal.scientific (x : Decimal) : String :=
  let ds := digitString x.digits
  let k : Int := ds.length + x.power - 1
  let tail := ds.toList.drop 1
  String.ofList (ds.toList.take 1) ++
    (if tail.isEmpty then "" else "." ++ String.ofList tail) ++
    (if k < 0 then "e-" else "e+") ++ toString k.natAbs

def text (x : Double) : String :=
  if x.isZero then x.signed "0.0" else
    let d := x.shortest
    let k : Int := (digitString d.digits).length + d.power
    x.signed (if -5 < k ∧ k ≤ 16 then d.positional else d.scientific)

def plainText (x : Double) : String :=
  x.signed (if x.isZero then "0.0" else x.shortest.positional)

end Federation.Double
