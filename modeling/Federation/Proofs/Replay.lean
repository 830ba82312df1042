import Federation.Proofs.Composed
import Federation.Proofs.Journal
import Federation.Proofs.Once

namespace Federation

namespace Routine

variable {α β : Type}

/-- The result of the routine and the changes it puts on record, if these are the calls it makes
with their answers. -/
def replay : Routine α → List Reply → Option (α × List Change)
  | .done a, [] => some (a, [])
  | .done _, _ :: _ | .call .., [] => none
  | .call c next, ⟨c', r⟩ :: rest => if h : c' = c then (next (h ▸ r)).replay rest else none
  | .acquire _ next, replies | .release _ next, replies => next.replay replies
  | .record change next, replies =>
    (next.replay replies).map fun (a, changes) => (a, change :: changes)

inductive Leads : Routine α → List Reply → Routine α → List Change → Prop
  | here (m : Routine α) : Leads m [] m []
  | call {c : Call} {next : c.Outcome → Routine α} {r : c.Outcome} {replies : List Reply}
    {left : Routine α} {changes : List Change} (h : Leads (next r) replies left changes) :
    Leads (.call c next) (⟨c, r⟩ :: replies) left changes
  | acquire {key : String} {next left : Routine α} {replies : List Reply} {changes : List Change}
    (h : Leads next replies left changes) : Leads (.acquire key next) replies left changes
  | release {key : String} {next left : Routine α} {replies : List Reply} {changes : List Change}
    (h : Leads next replies left changes) : Leads (.release key next) replies left changes
  | record {change : Change} {next left : Routine α} {replies : List Reply}
    {changes : List Change} (h : Leads next replies left changes) :
    Leads (.record change next) replies left (change :: changes)

variable {m left : Routine α} {replies : List Reply} {changes : List Change}

theorem Leads.trans {last : Routine α} {replies' : List Reply} {changes' : List Change}
    (h : Leads m replies left changes) (h' : Leads left replies' last changes') :
    Leads m (replies ++ replies') last (changes ++ changes') := by
  induction h with
  | here m => exact h'
  | call _ ih => exact .call (ih h')
  | acquire _ ih => exact .acquire (ih h')
  | release _ ih => exact .release (ih h')
  | record _ ih => exact .record (ih h')

theorem Leads.replay {a : α} (h : Leads m replies (.done a) changes) :
    m.replay replies = some (a, changes) := by
  generalize hlast : Routine.done a = last at h
  induction h with
  | here m =>
    subst hlast
    rfl
  | call _ ih => simpa [Routine.replay] using ih hlast
  | acquire _ ih | release _ ih => exact ih hlast
  | record _ ih => simp [Routine.replay, ih hlast]

/-- One lock at a time: inside, the routine has the lock that it has to give back. -/
def Bracketed : Bool → Routine α → Prop
  | inside, .done _ => inside = false
  | inside, .call _ next => ∀ r, (next r).Bracketed inside
  | inside, .acquire _ next => inside = false ∧ next.Bracketed true
  | inside, .release _ next => inside = true ∧ next.Bracketed false
  | inside, .record _ next => next.Bracketed inside

theorem Bracketed.bind {inside : Bool} {f : α → Routine β} (hm : m.Bracketed inside)
    (hf : ∀ a, (f a).Bracketed false) : (m.bind f).Bracketed inside := by
  induction m generalizing inside with
  | done a =>
    obtain rfl : inside = false := hm
    exact hf a
  | call c next ih => exact fun r => ih r (hm r)
  | acquire _ next ih | release _ next ih => exact ⟨hm.1, ih hm.2⟩
  | record _ next ih => exact ih hm

theorem Lockless.bracketed_under (h : m.Lockless) (key : String) :
    (m.under key).Bracketed true := by
  induction m with
  | done a => exact ⟨rfl, rfl⟩
  | call c next ih => exact fun r => ih r (h r)
  | acquire | release => cases h
  | record change next ih => exact ih h

theorem Guarded.bracketed {key : String} (h : m.Guarded key) : m.Bracketed false := by
  obtain ⟨body, hbody, rfl⟩ := h
  exact ⟨rfl, hbody.bracketed_under key⟩

end Routine

theorem Attempt.bracketed_composes : Attempt.Composes fun m => m.run.Bracketed false where
  pure _ := rfl
  throw _ := rfl
  bind hm hf := by
    refine Routine.Bracketed.bind hm fun r => ?_
    cases r with
    | ok b => exact hf b
    | error e => rfl
  lookup _ _ := rfl
  perform _ _ := rfl
  record _ := rfl
  application displayName := (ensureApplication_guarded displayName).bracketed
  principal app tags := (ensureServicePrincipal_guarded app tags).bracketed
  credential app spec := (ensureCredential_guarded app spec).bracketed

theorem Order.attempt_bracketed (o : Order) (identity : WorkloadIdentity) :
    (o.attempt identity).run.Bracketed false :=
  Attempt.bracketed_composes.attempt o identity

end Federation
