import Federation.Proofs.Halt

namespace Federation

structure Event (σ : Type) where
  before : σ
  call : Call
  outcome : call.Outcome
  after : σ

def Event.Refused {σ : Type} (x : Event σ) : Prop := x.outcome = .error (.transport .cancelled)

theorem Event.Refused.isNotFound {σ : Type} {x : Event σ} (h : x.Refused) {e : DirectoryError}
    (he : x.outcome = .error e) : e.isNotFound = false := by
  rw [h] at he
  cases he
  rfl

namespace Routine

variable {σ α β : Type}

def events (d : Behaviour σ) : Routine α → σ → List (Event σ)
  | .done _, _ => []
  | .call c next, s => ⟨s, c, (d c s).1, (d c s).2⟩ :: (next (d c s).1).events d (d c s).2
  | .acquire _ next, s | .release _ next, s | .record _ next, s => next.events d s

def upcoming? : Routine α → Option Call
  | .done _ => none
  | .call c _ => some c
  | .acquire _ next | .release _ next | .record _ next => next.upcoming?

def noted : Routine α → List Change
  | .done _ | .call .. => []
  | .acquire _ next | .release _ next => next.noted
  | .record change next => change :: next.noted

/-- Running alone, the routine comes to a moment: what is left of it then, the changes on record,
and the state of the directory. -/
inductive Reaches (d : Behaviour σ) : Routine α → σ → Routine α → List Change → σ → Prop
  | here (m : Routine α) (s : σ) : Reaches d m s m [] s
  | call {c : Call} {next : c.Outcome → Routine α} {s u : σ} {left : Routine α}
    {changes : List Change} (h : Reaches d (next (d c s).1) (d c s).2 left changes u) :
    Reaches d (.call c next) s left changes u
  | acquire {key : String} {next left : Routine α} {s u : σ} {changes : List Change}
    (h : Reaches d next s left changes u) : Reaches d (.acquire key next) s left changes u
  | release {key : String} {next left : Routine α} {s u : σ} {changes : List Change}
    (h : Reaches d next s left changes u) : Reaches d (.release key next) s left changes u
  | record {change : Change} {next left : Routine α} {s u : σ} {changes : List Change}
    (h : Reaches d next s left changes u) :
    Reaches d (.record change next) s left (change :: changes) u

def advance (d : Behaviour σ) : Nat → Routine α → σ → Routine α × List Change × σ
  | 0, m, s => (m, [], s)
  | _ + 1, .done a, s => (.done a, [], s)
  | n + 1, .call c next, s => (next (d c s).1).advance d n (d c s).2
  | n + 1, .acquire _ next, s | n + 1, .release _ next, s => next.advance d n s
  | n + 1, .record change next, s =>
    let (left, changes, u) := next.advance d n s
    (left, change :: changes, u)

theorem reaches_advance (d : Behaviour σ) (n : Nat) (m : Routine α) (s : σ) :
    m.Reaches d s (m.advance d n s).1 (m.advance d n s).2.1 (m.advance d n s).2.2 := by
  induction n generalizing m s with
  | zero => exact .here m s
  | succ n ih =>
    cases m with
    | done a => exact .here _ s
    | call c next => exact .call (ih _ _)
    | acquire key next => exact .acquire (ih next s)
    | release key next => exact .release (ih next s)
    | record change next => exact .record (ih next s)

section Reaches

variable {d : Behaviour σ} {m left : Routine α} {s u : σ} {changes : List Change}

/-- The rest of the run is the run of what is left. -/
theorem Reaches.run_eq (h : Reaches d m s left changes u) :
    m.run d s = ((left.run d u).1, changes ++ (left.run d u).2.1, (left.run d u).2.2) := by
  induction h with
  | here m s => rfl
  | call _ ih | acquire _ ih | release _ ih => exact ih
  | record _ ih => simp only [run, ih, List.cons_append]

theorem Reaches.preserves {P : σ → Prop} (hP : ∀ c s, P s → P (d c s).2)
    (h : Reaches d m s left changes u) (hs : P s) : P u := by
  induction h with
  | here m s => exact hs
  | call _ ih => exact ih (hP _ _ hs)
  | acquire _ ih | release _ ih | record _ ih => exact ih hs

theorem Reaches.events_eq (h : Reaches d m s left changes u) :
    ∃ earlier, m.events d s = earlier ++ left.events d u := by
  induction h with
  | here m s => exact ⟨[], rfl⟩
  | call _ ih =>
    obtain ⟨earlier, he⟩ := ih
    exact ⟨_ :: earlier, congrArg _ he⟩
  | acquire _ ih | release _ ih | record _ ih => exact ih

theorem Reaches.halts {m left : Routine (Except ReconcileError β)}
    (h : Reaches d m s left changes u) (hm : m.Halts) : left.Halts := by
  induction h with
  | here m s => exact hm
  | call _ ih => exact ih (hm.2 _)
  | acquire _ ih | release _ ih | record _ ih => exact ih hm

end Reaches

theorem run_preserves {d : Behaviour σ} {P : σ → Prop} (hP : ∀ c s, P s → P (d c s).2)
    (m : Routine α) {s : σ} (hs : P s) : P (m.run d s).2.2 := by
  induction m generalizing s with
  | done a => exact hs
  | call c next ih => exact ih _ (hP c s hs)
  | acquire _ next ih | release _ next ih | record _ next ih => exact ih hs

theorem Quits.events {m : Routine (Except ReconcileError α)} (hm : m.Quits) (d : Behaviour σ)
    (s : σ) : m.events d s = [] := by
  induction m with
  | done r => rfl
  | acquire _ next ih | release _ next ih => exact ih hm
  | call | record => cases hm

def Opens : Routine α → Prop
  | .call .. => True
  | .acquire _ next | .release _ next => next.Opens
  | .done _ | .record .. => False

theorem Opens.noted {m : Routine α} (hm : m.Opens) : m.noted = [] := by
  induction m with
  | call => rfl
  | acquire _ next ih | release _ next ih => exact ih hm
  | done | record => cases hm

theorem Opens.upcoming {m : Routine α} (hm : m.Opens) : m.upcoming?.isSome = true := by
  induction m with
  | call => rfl
  | acquire _ next ih | release _ next ih => exact ih hm
  | done | record => cases hm

/-- At a call that is refused, the routine makes that call, puts on record what it had to before,
and fails. -/
theorem Halts.refused {d : Behaviour σ} {m : Routine (Except ReconcileError α)} (hm : m.Halts)
    {s : σ} {c : Call} (hs : (d c s).1 = .error (.transport .cancelled))
    (hc : m.upcoming? = some c) :
    m.run d s = (.error .cancelled, m.noted, (d c s).2) ∧
      m.events d s = [⟨s, c, (d c s).1, (d c s).2⟩] := by
  induction m with
  | done r => cases hc
  | call c' next ih =>
    obtain rfl : c' = c := Option.some.inj hc
    -- After the refusal the routine does nothing but give back its lock.
    have hquits : (next (d c' s).1).Quits := by
      rw [hs]
      exact hm.1
    exact ⟨hquits.run d _, congrArg _ (hquits.events d _)⟩
  | acquire _ next ih | release _ next ih => exact ih hm hc
  | record change next ih =>
    obtain ⟨hrun, hevents⟩ := ih hm hc
    refine ⟨?_, hevents⟩
    simp only [run, hrun, noted]

theorem run_of_upcoming_none {d : Behaviour σ} {m : Routine α} (h : m.upcoming? = none) (s : σ) :
    (m.run d s).2 = (m.noted, s) ∧ m.events d s = [] := by
  induction m with
  | done a => exact ⟨rfl, rfl⟩
  | call c next ih => cases h
  | acquire _ next ih | release _ next ih => exact ih h
  | record change next ih =>
    obtain ⟨hrun, hevents⟩ := ih h
    refine ⟨?_, hevents⟩
    simp only [run, hrun, noted]

end Routine

theorem Order.attempt_opens (o : Order) (identity : WorkloadIdentity) :
    (o.attempt identity).run.Opens := by
  unfold Order.attempt
  cases o.action with
  | provision =>
    cases o.dryRun with
    | false => exact trivial
    | true => exact trivial
  | teardown => exact trivial

/-- A moment in a run: the identities that are finished, the one that is worked on, and those that
are not begun; what is left of the attempt, its changes on record, and the state of the
directory. -/
structure Moment (σ : Type) where
  past : List WorkloadIdentity
  identity : WorkloadIdentity
  future : List WorkloadIdentity
  left : Routine (Except ReconcileError Unit)
  changes : List Change
  state : σ

def Moment.unfinished {σ : Type} (m : Moment σ) : List WorkloadIdentity :=
  if m.left.upcoming?.isSome then m.identity :: m.future else m.future

namespace Order

variable {σ : Type}

/-- The run of the order comes to the moment. -/
def Passes (o : Order) (d : Behaviour σ) (s : σ) (m : Moment σ) : Prop :=
  o.identities = m.past ++ m.identity :: m.future ∧
    (o.attempt m.identity).run.Reaches d (o.runEach d m.past s).2 m.left m.changes m.state

def events (o : Order) (d : Behaviour σ) : List WorkloadIdentity → σ → List (Event σ)
  | [], _ => []
  | identity :: rest, s =>
    (o.attempt identity).run.events d s ++
      o.events d rest ((o.attempt identity).run.run d s).2.2

def eventsFrom (o : Order) (d : Behaviour σ) (m : Moment σ) : List (Event σ) :=
  m.left.events d m.state ++ o.events d m.future (m.left.run d m.state).2.2

variable (o : Order) (d : Behaviour σ)

def momentAt (n : Nat) (identity : WorkloadIdentity) (rest : List WorkloadIdentity) (s : σ) :
    Moment σ :=
  let (left, changes, u) := (o.attempt identity).run.advance d n s
  ⟨[], identity, rest, left, changes, u⟩

theorem passes_momentAt {o : Order} {identity : WorkloadIdentity} {rest : List WorkloadIdentity}
    (h : o.identities = identity :: rest) (d : Behaviour σ) (n : Nat) (s : σ) :
    o.Passes d s (o.momentAt d n identity rest s) :=
  ⟨h, Routine.reaches_advance d n _ s⟩

theorem runEach_append (before after : List WorkloadIdentity) (s : σ) :
    o.runEach d (before ++ after) s =
      let (outcomes, u) := o.runEach d before s
      let (more, t) := o.runEach d after u
      (outcomes ++ more, t) := by
  induction before generalizing s with
  | nil => rfl
  | cons identity rest ih => simp only [List.cons_append, runEach, ih]

theorem events_append (before after : List WorkloadIdentity) (s : σ) :
    o.events d (before ++ after) s =
      o.events d before s ++ o.events d after (o.runEach d before s).2 := by
  induction before generalizing s with
  | nil => rfl
  | cons identity rest ih => simp only [List.cons_append, events, runEach, ih, List.append_assoc]

theorem Passes.events_eq {o : Order} {d : Behaviour σ} {s : σ} {m : Moment σ}
    (h : o.Passes d s m) :
    ∃ earlier, o.events d o.identities s = earlier ++ o.eventsFrom d m := by
  obtain ⟨hidentities, hreaches⟩ := h
  obtain ⟨earlier, hevents⟩ := hreaches.events_eq
  refine ⟨o.events d m.past s ++ earlier, ?_⟩
  rw [hidentities, events_append]
  simp only [events, eventsFrom, hevents, hreaches.run_eq, List.append_assoc]

theorem runEach_preserves {P : σ → Prop} (hP : ∀ c s, P s → P (d c s).2)
    (identities : List WorkloadIdentity) {s : σ} (hs : P s) : P (o.runEach d identities s).2 := by
  induction identities generalizing s with
  | nil => exact hs
  | cons identity rest ih => exact ih (Routine.run_preserves hP _ hs)

end Order

end Federation
