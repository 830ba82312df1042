import Federation.Json.Basic

namespace Federation.Json

def greatestInteger : Nat := Nat.pow 2 64 - 1

/-- The digits of a number literal as far as they count: `significand * 10 ^ power`. Digits that
would lift the significand above `greatestInteger` are left out. -/
structure Digits where
  significand : Nat
  power : Int

def powerOfTen (n : Nat) : Double := (Double.ofDecimal false 1 n).getD (.zero false)

/-- Scales a double by `10 ^ power`, rounding once for a power of at most 308 and once more for
each further 308 below. None when the result is too large. -/
def scale : Nat → Double → Int → Option Double
  | 0, x, _ => some x
  | fuel + 1, x, power =>
    if power.natAbs ≤ 308 then
      if 0 ≤ power then x.mul (powerOfTen power.toNat) else x.div (powerOfTen (-power).toNat)
    else if x.isZero then some x
    else if 0 ≤ power then none
    else (x.div (powerOfTen 308)).bind fun y => scale fuel y (power + 308)

def Digits.toDouble (d : Digits) (negative : Bool) : Option Double :=
  (Double.ofNat d.significand).bind fun x =>
    (scale 4 x d.power).map fun y => if negative then y.neg else y

def ofWhole (negative : Bool) (n : Nat) : Json :=
  if !negative then .integer n
  else if 0 < n ∧ n ≤ Nat.pow 2 63 then .integer (-n)
  else .double ((Double.ofNat n).getD (.zero false)).neg

end Federation.Json
