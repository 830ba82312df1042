import Federation.Reconcile.Provision
import Federation.Reconcile.Teardown

namespace Federation.Attempt

variable {α β σ : Type} (d : Behaviour σ) (s : σ)

@[simp] theorem run_record (change : Change) :
    (record change).run.run d s = (.ok (), [change], s) := rfl

@[simp] theorem run_lookup (c : Call) :
    (lookup c).run.run d s = (found (d c s).1, [], (d c s).2) := rfl

@[simp] theorem run_perform (c : Call) :
    (perform c).run.run d s = ((d c s).1.mapError .directory, [], (d c s).2) := rfl

/-- Alone, a lock makes no difference. -/
@[simp] theorem run_holding (key : String) (body : Attempt α) :
    (holding key body).run.run d s = body.run.run d s := by
  have h := Routine.run_bind d body.run (fun r => .release key (.done r)) s
  change (body.run.bind fun r => .release key (.done r)).run d s = _
  rw [h]
  simp [Routine.run]

theorem run_bind (m : Attempt α) (f : α → Attempt β) :
    (m >>= f).run.run d s =
      match m.run.run d s with
      | (.error e, changes, t) => (.error e, changes, t)
      | (.ok a, changes, t) =>
        let (r, more, t) := (f a).run.run d t
        (r, changes ++ more, t) := by
  have h := Routine.run_bind d m.run (fun r => ExceptT.bindCont f r) s
  change (Routine.bind m.run fun r => ExceptT.bindCont f r).run d s = _
  rw [h]
  rcases m.run.run d s with ⟨r, changes, t⟩
  cases r with
  | error e =>
    change (Except.error e, changes ++ [], t) = _
    rw [List.append_nil]
  | ok a => rfl

theorem run_bind_ok {m : Attempt α} {a : α} {changes : List Change} {t : σ}
    (h : m.run.run d s = (.ok a, changes, t)) (f : α → Attempt β) :
    (m >>= f).run.run d s =
      (((f a).run.run d t).1, changes ++ ((f a).run.run d t).2.1, ((f a).run.run d t).2.2) := by
  rw [run_bind, h]

theorem run_bind_error {m : Attempt α} {e : ReconcileError} {changes : List Change} {t : σ}
    (h : m.run.run d s = (.error e, changes, t)) (f : α → Attempt β) :
    (m >>= f).run.run d s = (.error e, changes, t) := by
  rw [run_bind, h]

theorem run_map {m : Attempt α} {r : Except ReconcileError α} {changes : List Change} {t : σ}
    (h : m.run.run d s = (r, changes, t)) (f : α → β) :
    (do return f (← m) : Attempt β).run.run d s = (r.map f, changes, t) := by
  rw [run_bind, h]
  cases r with
  | ok a =>
    change (Except.ok (f a), changes ++ [], t) = _
    rw [List.append_nil]
    rfl
  | error e => rfl

end Federation.Attempt
