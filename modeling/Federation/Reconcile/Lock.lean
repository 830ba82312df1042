namespace Federation

/-- A task that asked for the creation lock of a key: it refers to the slot that the key had when
it asked, and waits for it or holds it. -/
structure Claim (τ : Type) where
  task : τ
  key : String
  slot : Nat
  holding : Bool
  deriving DecidableEq, Repr

/-- The creation locks: a slot for each key in use, and the claims on slots in the order in which
they were made. A slot that no claim refers to goes when the next lock is asked for. -/
structure LockTable (τ : Type) where
  slots : List (String × Nat)
  claims : List (Claim τ)
  next : Nat
  deriving DecidableEq, Repr

namespace LockTable

variable {τ : Type} [DecidableEq τ]

def empty : LockTable τ := ⟨[], [], 0⟩

def inUse (t : LockTable τ) (slot : Nat) : Bool := t.claims.any (·.slot == slot)

def held (t : LockTable τ) (slot : Nat) : Bool := t.claims.any fun c => c.slot == slot && c.holding

def prune (t : LockTable τ) : LockTable τ := { t with slots := t.slots.filter fun e => t.inUse e.2 }

def slot? (t : LockTable τ) (key : String) : Option Nat := t.slots.lookup key

def ask (t : LockTable τ) (task : τ) (key : String) : LockTable τ :=
  let t := t.prune
  match t.slot? key with
  | some slot => { t with claims := t.claims ++ [⟨task, key, slot, false⟩] }
  | none =>
    { slots := t.slots ++ [(key, t.next)]
      claims := t.claims ++ [⟨task, key, t.next, false⟩]
      next := t.next + 1 }

def grantAll : List Nat → List (Claim τ) → List (Claim τ)
  | _, [] => []
  | taken, c :: rest =>
    if c.holding || taken.contains c.slot then c :: grantAll taken rest
    else { c with holding := true } :: grantAll (c.slot :: taken) rest

def grant (t : LockTable τ) : LockTable τ :=
  { t with claims := grantAll ((t.claims.filter (·.holding)).map (·.slot)) t.claims }

def drop (t : LockTable τ) (task : τ) : LockTable τ :=
  { t with claims := t.claims.filter (·.task ≠ task) }

def knows (t : LockTable τ) (task : τ) : Bool := t.claims.any (·.task = task)

def holds (t : LockTable τ) (task : τ) : Bool := t.claims.any fun c => c.task = task && c.holding

def holders (t : LockTable τ) : List τ := (t.claims.filter (·.holding)).map (·.task)

def waiters (t : LockTable τ) : List τ := (t.claims.filter (!·.holding)).map (·.task)

end LockTable

end Federation
