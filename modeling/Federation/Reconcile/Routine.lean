import Federation.Directory.Call
import Federation.Reconcile.Change
import Federation.Reconcile.Error

namespace Federation

/-- What is done to one identity: calls of the directory, each followed by what depends on its
outcome, creation locks taken and given back, and changes put on record. Which directory answers is
left open, and what other routines do between the steps. -/
inductive Routine (α : Type) : Type
  | done (a : α)
  | call (c : Call) (next : c.Outcome → Routine α)
  | acquire (key : String) (next : Routine α)
  | release (key : String) (next : Routine α)
  | record (change : Change) (next : Routine α)

namespace Routine

variable {α β γ σ : Type}

def bind : Routine α → (α → Routine β) → Routine β
  | .done a, f => f a
  | .call c next, f => .call c fun r => (next r).bind f
  | .acquire key next, f => .acquire key (next.bind f)
  | .release key next, f => .release key (next.bind f)
  | .record change next, f => .record change (next.bind f)

instance : Monad Routine where
  pure := .done
  bind := bind

theorem bind_assoc (m : Routine α) (f : α → Routine β) (g : β → Routine γ) :
    (m.bind f).bind g = m.bind fun a => (f a).bind g := by
  induction m with
  | done a => rfl
  | call c next ih => simp only [bind]; congr 1; funext r; exact ih r
  | acquire key next ih => simp only [bind, ih]
  | release key next ih => simp only [bind, ih]
  | record change next ih => simp only [bind, ih]

/-- The routine run alone against a directory: its result, the changes on record and the state of
the directory after it. Alone it finds every lock free. -/
def run (d : Behaviour σ) : Routine α → σ → α × List Change × σ
  | .done a, s => (a, [], s)
  | .call c next, s =>
    let (r, s) := d c s
    (next r).run d s
  | .acquire _ next, s | .release _ next, s => next.run d s
  | .record change next, s =>
    let (a, changes, s) := next.run d s
    (a, change :: changes, s)

theorem run_bind (d : Behaviour σ) (m : Routine α) (f : α → Routine β) (s : σ) :
    (m.bind f).run d s =
      let (a, before, s) := m.run d s
      let (b, after, s) := (f a).run d s
      (b, before ++ after, s) := by
  induction m generalizing s with
  | done a => rfl
  | call c next ih => exact ih (d c s).1 (d c s).2
  | acquire key next ih => exact ih s
  | release key next ih => exact ih s
  | record change next ih => simp only [bind, run, ih, List.cons_append]

end Routine

abbrev Attempt (α : Type) : Type := ExceptT ReconcileError Routine α

namespace Attempt

variable {α : Type}

def perform (c : Call) : Attempt c.Answer :=
  ExceptT.mk (.call c fun r => .done (r.mapError .directory))

def found {α : Type} : Except DirectoryError α → Except ReconcileError (Option α)
  | .ok a => .ok (some a)
  | .error e => if e.isNotFound then .ok none else .error (.directory e)

def lookup (c : Call) : Attempt (Option c.Answer) :=
  ExceptT.mk (.call c fun r => .done (found r))

def record (change : Change) : Attempt Unit := ExceptT.mk (.record change (.done (.ok ())))

/-- Holds a creation lock during an attempt, and gives it back whether it fails or not. -/
def holding (key : String) (body : Attempt α) : Attempt α :=
  ExceptT.mk (.acquire key (body.run.bind fun r => .release key (.done r)))

end Attempt

end Federation
