import Federation.Proofs.Composed
import Federation.Proofs.Cut

namespace Federation

def ReconcileError.cancelled : ReconcileError := .directory (.transport .cancelled)

namespace Routine

variable {α β : Type}

def Quits : Routine (Except ReconcileError α) → Prop
  | .done r => r = .error .cancelled
  | .acquire _ next | .release _ next => next.Quits
  | .call .. | .record .. => False

/-- Once a call is refused, there is nothing left to do but to fail for that. -/
def Halts : Routine (Except ReconcileError α) → Prop
  | .done _ => True
  | .call _ next => (next (.error (.transport .cancelled))).Quits ∧ ∀ r, (next r).Halts
  | .acquire _ next | .release _ next | .record _ next => next.Halts

theorem Quits.bind {m : Routine (Except ReconcileError α)}
    {f : Except ReconcileError α → Routine (Except ReconcileError β)} (hm : m.Quits)
    (hf : (f (.error .cancelled)).Quits) : (m.bind f).Quits := by
  induction m with
  | done r =>
    obtain rfl : r = .error .cancelled := hm
    exact hf
  | acquire _ next ih | release _ next ih => exact ih hm
  | call | record => cases hm

theorem Quits.run {σ : Type} {m : Routine (Except ReconcileError α)} (hm : m.Quits)
    (d : Behaviour σ) (s : σ) : m.run d s = (.error .cancelled, [], s) := by
  induction m with
  | done r =>
    obtain rfl : r = .error .cancelled := hm
    rfl
  | acquire _ next ih | release _ next ih => exact ih hm
  | call | record => cases hm

theorem Halts.bind {m : Routine (Except ReconcileError α)}
    {f : Except ReconcileError α → Routine (Except ReconcileError β)} (hm : m.Halts)
    (hquits : (f (.error .cancelled)).Quits) (hf : ∀ r, (f r).Halts) : (m.bind f).Halts := by
  induction m with
  | done r => exact hf r
  | call c next ih => exact ⟨hm.1.bind hquits, fun r => ih r (hm.2 r)⟩
  | acquire _ next ih | release _ next ih | record _ next ih => exact ih hm

end Routine

namespace RehearsedStore

variable {names : Naming} {α : Type} {r : RehearsedStore}

theorem disturbances_perform (c : Call) :
    (r.perform names c).2.disturbances = r.disturbances := by
  unfold perform
  split <;> rfl

theorem disturbances_behaviour (c : Call) :
    (behaviour names c r).2.disturbances = r.disturbances := by
  have hperformed : ∀ r : RehearsedStore, r.disturbances =
      (r.perform names c).2.disturbances := fun r => (disturbances_perform c).symm
  unfold behaviour
  cases r.disturbance? c with
  | none => exact (hperformed _).symm
  | some x =>
    obtain ⟨kind, nth, after, error⟩ := x
    cases after <;> cases error
    · exact (hperformed { r with calls := _, cancelled := true }).symm
    · rfl
    · exact (hperformed { r with calls := _ }).symm
    · exact (hperformed { r with calls := _ }).symm

theorem disturbances_run (m : Routine α) :
    (m.run (behaviour names) r).2.2.disturbances = r.disturbances := by
  induction m generalizing r with
  | done a => rfl
  | call c next ih => exact (ih _).trans (disturbances_behaviour c)
  | acquire _ next ih | release _ next ih | record _ next ih => exact ih

theorem behaviour_cases (honly : r.OnlyCancels) (c : Call) :
    ((behaviour names c r).1 = (Store.behaviour names c r.store).1 ∧
        (behaviour names c r).2.store = (Store.behaviour names c r.store).2) ∨
      ((behaviour names c r).1 = .error (.transport .cancelled) ∧
        (behaviour names c r).2.store = r.store) := by
  have hdead : ∀ r : RehearsedStore, r.cancelled = true → ∀ store, r.store = store →
      (r.perform names c).1 = .error (.transport .cancelled) ∧
        (r.perform names c).2.store = store := by
    rintro r h _ rfl
    rw [perform_dead h]
    exact ⟨rfl, rfl⟩
  have hperformed : ∀ r' : RehearsedStore, r'.store = r.store →
      ((r'.perform names c).1 = (Store.behaviour names c r.store).1 ∧
        (r'.perform names c).2.store = (Store.behaviour names c r.store).2) ∨
      ((r'.perform names c).1 = .error (.transport .cancelled) ∧
        (r'.perform names c).2.store = r.store) := by
    intro r' hstore
    cases hlive : r'.cancelled with
    | true => exact .inr (hdead r' hlive _ hstore)
    | false =>
      rw [perform_live hlive, hstore]
      exact .inl ⟨rfl, rfl⟩
  unfold behaviour
  cases hd : r.disturbance? c with
  | none => exact hperformed _ rfl
  | some x =>
    obtain ⟨kind, nth, after, error⟩ := x
    obtain rfl : error = none := honly _ (List.mem_of_find?_eq_some hd)
    cases after with
    | false => exact .inr (hdead { r with calls := _, cancelled := true } rfl _ rfl)
    | true => exact hperformed { r with calls := _ } rfl

/-- An attempt goes as it would if nothing went wrong, or it fails because its token was cancelled
where it was to make a call. -/
theorem run_cases {m : Routine (Except ReconcileError α)} (hm : m.Halts) (honly : r.OnlyCancels) :
    ((m.run (behaviour names) r).1 = (m.run (Store.behaviour names) r.store).1 ∧
        (m.run (behaviour names) r).2.2.store = (m.run (Store.behaviour names) r.store).2.2) ∨
      ((m.run (behaviour names) r).1 = .error .cancelled ∧
        m.Pending names r.store (m.run (behaviour names) r).2.2.store) := by
  induction m generalizing r with
  | done a => exact .inl ⟨rfl, rfl⟩
  | call c next ih =>
    have hrun : (Routine.call c next).run (behaviour names) r =
        (next (behaviour names c r).1).run (behaviour names) (behaviour names c r).2 := rfl
    have honly' : (behaviour names c r).2.OnlyCancels := by
      rwa [OnlyCancels, disturbances_behaviour]
    obtain ⟨houtcome, hstore⟩ | ⟨houtcome, hstore⟩ := @behaviour_cases names r honly c
    -- A call that is performed is one of the other run; at one that is refused the attempt halts.
    · have hnext := ih (Store.behaviour names c r.store).1 (hm.2 _) honly'
      rw [hstore] at hnext
      rw [hrun, houtcome]
      exact hnext.imp_right fun h => ⟨h.1, .inr h.2⟩
    · right
      rw [hrun, houtcome, hm.1.run]
      exact ⟨rfl, .inl hstore⟩
  | acquire _ next ih | release _ next ih | record _ next ih => exact ih hm honly

end RehearsedStore

namespace Attempt

variable {α β : Type}

abbrev Halts (m : Attempt α) : Prop := m.run.Halts

theorem Halts.pure (a : α) : Halts (pure a : Attempt α) := trivial

theorem Halts.throw (e : ReconcileError) : Halts (throw e : Attempt α) := trivial

theorem Halts.andThen {m : Attempt β} {f : β → Attempt α} (hm : Halts m) (hf : ∀ b, Halts (f b)) :
    Halts (m >>= f) := by
  refine Routine.Halts.bind hm rfl fun r => ?_
  cases r with
  | ok b => exact hf b
  | error e => exact trivial

theorem halts_lookup (c : Call) : Halts (lookup c) := ⟨rfl, fun _ => trivial⟩

theorem halts_perform (c : Call) : Halts (perform c) := ⟨rfl, fun _ => trivial⟩

theorem halts_record (change : Change) : Halts (record change) := trivial

theorem Halts.holding {key : String} {body : Attempt α} (h : Halts body) :
    Halts (holding key body) :=
  Routine.Halts.bind (m := body.run) h rfl fun _ => trivial

end Attempt

open Attempt

section Halts

theorem ensureApplication_halts (displayName : String) : Halts (ensureApplication displayName) := by
  refine .holding (.andThen (halts_lookup _) fun found => ?_)
  cases found with
  | some app => exact .pure _
  | none => exact .andThen (halts_perform _) fun _ => .pure _

theorem ensureServicePrincipal_halts (app : Application) (tags : List String) :
    Halts (ensureServicePrincipal app tags) := by
  refine .holding (.andThen (halts_lookup _) fun found => ?_)
  cases found with
  | some principal =>
    dsimp only
    split
    · exact .pure _
    · exact .throw _
  | none => exact .andThen (halts_perform _) fun _ => .pure _

theorem ensureCredential_halts (app : Application) (spec : CredentialSpec) :
    Halts (ensureCredential app spec) := by
  refine .holding (.andThen (halts_lookup _) fun found => ?_)
  cases found with
  | some credential => exact .pure _
  | none => exact .andThen (halts_perform _) fun _ => .andThen (halts_perform _) fun _ => .pure _

theorem Attempt.halts_composes : Attempt.Composes fun m => Halts m where
  pure := .pure
  throw := .throw
  bind hm hf := .andThen hm hf
  lookup := halts_lookup
  perform := halts_perform
  record := halts_record
  application := ensureApplication_halts
  principal := ensureServicePrincipal_halts
  credential := ensureCredential_halts

/-- Whatever is done to an identity, a refused call is the last. -/
theorem Order.attempt_halts (o : Order) (identity : WorkloadIdentity) :
    Halts (o.attempt identity) :=
  halts_composes.attempt o identity

end Halts

end Federation
