import Federation.Text.Digit

namespace Federation.Text

def words (s : String) : List String :=
  ((s.splitOn "\n").flatMap (·.splitOn " ")).filter (!·.isEmpty)

def tableNumber (s : String) : Nat := (number? 16 s.toList).getD 0

def range (word : String) : Nat × Nat :=
  match word.splitOn "-" with
  | [first, last] => (tableNumber first, tableNumber last)
  | _ => (tableNumber word, tableNumber word)

def ranges (table : String) : List (Nat × Nat) := (words table).map range

def inRanges (rs : List (Nat × Nat)) (c : Char) : Bool :=
  rs.any fun r => r.1 ≤ c.toNat && c.toNat ≤ r.2

/-- What the characters of a row become: the first of them the target, the others characters as
far from the target as they are from the first. -/
structure Replacement where
  first : Nat
  last : Nat
  step : Nat
  target : List Nat
  deriving Repr

namespace Replacement

/-- A row is written in base sixteen as `61` or `61-7a`. `41-5a=61` tells what such a row becomes,
and `100-12e/2=101` tells it for every second of them. -/
def ofWord (word : String) : Replacement :=
  let (source, target) := match word.splitOn "=" with
    | [source, target] => (source, (target.splitOn ".").map tableNumber)
    | _ => (word, [])
  let (row, step) := match source.splitOn "/" with
    | [row, step] => (row, tableNumber step)
    | _ => (source, 1)
  ⟨(range row).1, (range row).2, step, target⟩

def image? (r : Replacement) (c : Char) : Option (List Char) :=
  let n := c.toNat
  if r.first ≤ n ∧ n ≤ r.last ∧ (n - r.first) % r.step = 0 then
    some (r.target.map fun t => Char.ofNat (t + (n - r.first)))
  else none

end Replacement

def replacements (table : String) : List Replacement := (words table).map Replacement.ofWord

def replace? (rs : List Replacement) (c : Char) : Option (List Char) := rs.findSome? (·.image? c)

end Federation.Text
