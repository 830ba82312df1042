import Federation.Reconcile.Lock
import Federation.Reconcile.Routine

namespace Federation

/-- Routines under way together over one directory: what is left of each, the changes it has put on
record, and the creation locks, which go by the places of the routines. -/
structure Crowd (α σ : Type) where
  strands : List (Routine α × List Change)
  locks : LockTable Nat
  directory : σ

namespace Crowd

variable {α σ : Type}

def start (routines : List (Routine α)) (s : σ) : Crowd α σ :=
  ⟨routines.map fun r => (r, []), .empty, s⟩

/-- Goes on with one routine until it has made a call, or has to wait for a lock, or is done. -/
def advance (d : Behaviour σ) (place : Nat) :
    Routine α → List Change → LockTable Nat → σ → (Routine α × List Change) × LockTable Nat × σ
  | .done a, changes, locks, s => ((.done a, changes), locks, s)
  | .call c next, changes, locks, s =>
    let (r, s) := d c s
    ((next r, changes), locks, s)
  | .acquire key next, changes, locks, s =>
    let locks := (if locks.knows place then locks else locks.ask place key).grant
    if locks.holds place then advance d place next changes locks s
    else ((.acquire key next, changes), locks, s)
  | .release _ next, changes, locks, s =>
    advance d place next changes (locks.drop place).grant s
  | .record change next, changes, locks, s =>
    advance d place next (changes ++ [change]) locks s

def turn (d : Behaviour σ) (place : Nat) (w : Crowd α σ) : Crowd α σ :=
  match w.strands[place]? with
  | none => w
  | some (routine, changes) =>
    let (strand, locks, s) := advance d place routine changes w.locks w.directory
    ⟨w.strands.set place strand, locks, s⟩

def follow (d : Behaviour σ) (schedule : List Nat) (w : Crowd α σ) : Crowd α σ :=
  schedule.foldl (fun w place => w.turn d place) w

def settle (d : Behaviour σ) : List (Routine α × List Change) → σ → List (α × List Change) × σ
  | [], s => ([], s)
  | (routine, changes) :: rest, s =>
    let (a, more, s) := routine.run d s
    let (results, s) := settle d rest s
    ((a, changes ++ more) :: results, s)

def runTogether (d : Behaviour σ) (rounds : Nat) (routines : List (Routine α)) (s : σ) :
    List (α × List Change) × σ :=
  let schedule := (List.replicate rounds (List.range routines.length)).flatten
  let w := (start routines s).follow d schedule
  settle d w.strands w.directory

end Crowd

end Federation
