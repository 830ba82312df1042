import Federation.Directory.Rehearsal
import Federation.Proofs.Confluence
import Federation.Reconcile.Crowd

namespace Federation

/-- The directory that gives answers by the calls made so far, which are its state. -/
def Behaviour.answering (answer : List Call → (c : Call) → c.Outcome) : Behaviour (List Call) :=
  fun c made => (answer made c, made ++ [c])

namespace Routine

variable {α β σ : Type} {P : Call → Prop}

/-- All calls that the routine may make are of the given kind, whatever it is answered. -/
def Uses (P : Call → Prop) : Routine α → Prop
  | .done _ => True
  | .call c next => P c ∧ ∀ r, (next r).Uses P
  | .acquire _ next | .release _ next | .record _ next => next.Uses P

theorem Uses.bind {m : Routine α} {f : α → Routine β} (hm : m.Uses P)
    (hf : ∀ a, (f a).Uses P) : (m.bind f).Uses P := by
  induction m with
  | done a => exact hf a
  | call c next ih => exact ⟨hm.1, fun r => ih r (hm.2 r)⟩
  | acquire _ next ih | release _ next ih | record _ next ih => exact ih hm

variable {d : Behaviour σ} {I : σ → Prop}

theorem Uses.run {m : Routine α} (hm : m.Uses P) (hI : ∀ c s, P c → I s → I (d c s).2) {s : σ}
    (hs : I s) : I (m.run d s).2.2 := by
  induction m generalizing s with
  | done a => exact hs
  | call c next ih => exact ih _ (hm.2 _) (hI c s hm.1 hs)
  | acquire _ next ih | release _ next ih | record _ next ih => exact ih hm hs

theorem Uses.advance {m : Routine α} (hm : m.Uses P) (hI : ∀ c s, P c → I s → I (d c s).2)
    (place : Nat) (changes : List Change) (locks : LockTable Nat) {s : σ} (hs : I s) :
    (Crowd.advance d place m changes locks s).1.1.Uses P ∧
      I (Crowd.advance d place m changes locks s).2.2 := by
  induction m generalizing changes locks with
  | done a => exact ⟨trivial, hs⟩
  | call c next _ => exact ⟨hm.2 _, hI c s hm.1 hs⟩
  | acquire key next ih =>
    unfold Crowd.advance
    -- With the lock it goes on; without, nothing but the table of locks has changed.
    generalize (if locks.knows place then locks else locks.ask place key).grant = locks
    dsimp only
    split
    · exact ih hm _ _
    · exact ⟨hm, hs⟩
  | release _ next ih | record _ next ih => exact ih hm _ _

end Routine

namespace Attempt

variable {α β : Type} {P : Call → Prop}

theorem uses_pure (a : α) : (pure a : Attempt α).run.Uses P := trivial

theorem uses_throw (e : ReconcileError) : (throw e : Attempt α).run.Uses P := trivial

theorem uses_record (change : Change) : (record change).run.Uses P := trivial

theorem uses_lookup {c : Call} (hc : P c) : (lookup c).run.Uses P := ⟨hc, fun _ => trivial⟩

theorem uses_bind {m : Attempt α} {f : α → Attempt β} (hm : m.run.Uses P)
    (hf : ∀ a, (f a).run.Uses P) : (m >>= f).run.Uses P := by
  refine Routine.Uses.bind hm fun r => ?_
  cases r with
  | error e => exact trivial
  | ok a => exact hf a

end Attempt

def Call.Looks (c : Call) : Prop := c.kind.isLookup = true

open Attempt

theorem planAll_looks (identity : WorkloadIdentity) : (planAll identity).run.Uses Call.Looks := by
  unfold planAll
  refine uses_bind (uses_record _) fun _ => uses_bind (uses_record _) fun _ => ?_
  induction identity.credentials with
  | nil => exact uses_pure _
  | cons spec rest ih => exact uses_bind (uses_record _) fun _ => ih

theorem planCredentials_looks (displayName : String) (app : Application)
    (specs : List CredentialSpec) :
    (planCredentials displayName app specs).run.Uses Call.Looks := by
  induction specs with
  | nil => exact uses_pure _
  | cons spec rest ih =>
    unfold planCredentials
    refine uses_bind (uses_lookup rfl) fun credential => ?_
    cases credential with
    | some credential => exact uses_bind (uses_record _) fun _ => ih
    | none => exact uses_bind (uses_record _) fun _ => ih

theorem planProvision_looks (identity : WorkloadIdentity) :
    (planProvision identity).run.Uses Call.Looks := by
  unfold planProvision
  refine uses_bind (uses_lookup rfl) fun app => ?_
  cases app with
  | none => exact planAll_looks identity
  | some app =>
    refine uses_bind (uses_record _) fun _ => uses_bind (uses_lookup rfl) fun principal => ?_
    have hrest := planCredentials_looks identity.displayName app identity.credentials
    cases principal with
    | none => exact uses_bind (uses_record _) fun _ => hrest
    | some principal =>
      dsimp only
      split
      · exact uses_bind (uses_record _) fun _ => hrest
      · exact uses_bind (uses_throw _) fun _ => hrest

theorem teardownCredentials_looks (displayName : String) (app : Application)
    (specs : List CredentialSpec) :
    (teardownCredentials true displayName app specs).run.Uses Call.Looks := by
  induction specs with
  | nil => exact uses_pure _
  | cons spec rest ih =>
    unfold teardownCredentials
    refine uses_bind (uses_lookup rfl) fun credential => ?_
    cases credential with
    | none => exact ih
    | some credential =>
      exact uses_bind (uses_pure _) fun _ => uses_bind (uses_record _) fun _ => ih

theorem teardownPrincipal_looks (app : Application) :
    (teardownPrincipal true app).run.Uses Call.Looks := by
  unfold teardownPrincipal
  refine uses_bind (uses_lookup rfl) fun principal => ?_
  cases principal with
  | none => exact uses_pure _
  | some principal =>
    dsimp only
    split
    · exact uses_bind (uses_pure _) fun _ => uses_record _
    · exact uses_pure _

theorem teardown_looks (identity : WorkloadIdentity) :
    (teardown identity true).run.Uses Call.Looks := by
  unfold teardown
  refine uses_bind (uses_lookup rfl) fun app => ?_
  cases app with
  | none => exact uses_record _
  | some app =>
    refine uses_bind (teardownCredentials_looks _ _ _) fun _ =>
      uses_bind (teardownPrincipal_looks _) fun _ => ?_
    exact uses_bind (uses_pure _) fun _ => uses_record _

theorem Order.attempt_looks {o : Order} (hdry : o.dryRun = true) (identity : WorkloadIdentity) :
    (o.attempt identity).run.Uses Call.Looks := by
  unfold Order.attempt
  rw [hdry]
  cases o.action with
  | provision => exact planProvision_looks identity
  | teardown => exact teardown_looks identity

namespace Crowd

variable {α σ : Type}

/-- Routines that take turns while they have one of the permits. -/
inductive Shift (d : Behaviour σ) (permits : Nat) :
    Crowd α σ × List Stage → Crowd α σ × List Stage → Prop
  | enter {w : Crowd α σ} {stages : List Stage} {p : Nat} (hp : stages[p]? = some .waiting)
      (hfree : stages.count .working < permits) :
      Shift d permits (w, stages) (w, stages.set p .working)
  | turn {w : Crowd α σ} {stages : List Stage} {p : Nat} (hp : stages[p]? = some .working) :
      Shift d permits (w, stages) (w.turn d p, stages)
  | leave {w : Crowd α σ} {stages : List Stage} {p : Nat} {a : α} {changes : List Change}
      (hp : stages[p]? = some .working) (hdone : w.strands[p]? = some (.done a, changes)) :
      Shift d permits (w, stages) (w, stages.set p .leaving)

variable {d : Behaviour σ} {permits : Nat} {P : Call → Prop} {I : σ → Prop} {w : Crowd α σ}

structure Using (P : Call → Prop) (I : σ → Prop) (w : Crowd α σ) : Prop where
  strands : ∀ strand ∈ w.strands, strand.1.Uses P
  directory : I w.directory

theorem Using.turn (h : w.Using P I) (hI : ∀ c s, P c → I s → I (d c s).2) (p : Nat) :
    (w.turn d p).Using P I := by
  unfold Crowd.turn
  cases hp : w.strands[p]? with
  | none => exact h
  | some strand =>
    have hstrand := h.strands strand (List.mem_of_getElem? hp)
    obtain ⟨huses, hdirectory⟩ := hstrand.advance hI p strand.2 w.locks h.directory
    refine ⟨fun other ho => ?_, hdirectory⟩
    obtain ho | rfl := List.mem_or_eq_of_mem_set ho
    · exact h.strands other ho
    · exact huses

theorem Using.shifts (h : w.Using P I) (hI : ∀ c s, P c → I s → I (d c s).2)
    {stages : List Stage} {x : Crowd α σ × List Stage}
    (hshifts : Relation.ReflTransGen (Shift d permits) (w, stages) x) : x.1.Using P I := by
  induction hshifts with
  | refl => exact h
  | tail _ hshift ih =>
    cases hshift with
    | enter | leave => exact ih
    | turn => exact ih.turn hI _

end Crowd

namespace Order

variable {σ : Type}

def crowd (o : Order) (s : σ) : Crowd (Except ReconcileError Unit) σ × List Stage :=
  (.start (o.identities.map fun identity => (o.attempt identity).run) s,
    List.replicate o.identities.length .waiting)

/-- What holds of a directory goes on to hold whenever one identity is attempted, and while the
order is carried out, one identity after another or several at once. -/
structure Preserves (o : Order) (d : Behaviour σ) (I : σ → Prop) : Prop where
  attempt : ∀ identity s, I s → I ((o.attempt identity).run.run d s).2.2
  run : ∀ isCancelled s, I s → I (o.run d isCancelled s).2
  shifts : ∀ s w stages, I s →
    Relation.ReflTransGen (Crowd.Shift d o.permits) (o.crowd s) (w, stages) → I w.directory

variable {o : Order} {d : Behaviour σ} {P : Call → Prop} {I : σ → Prop}

theorem preserves_of_uses (huses : ∀ identity, (o.attempt identity).run.Uses P)
    (hI : ∀ c s, P c → I s → I (d c s).2) : o.Preserves d I := by
  have hattempt : ∀ identity s, I s → I ((o.attempt identity).run.run d s).2.2 :=
    fun identity s hs => (huses identity).run hI hs
  have heach : ∀ identities s, I s → I (o.runEach d identities s).2 := by
    intro identities
    induction identities with
    | nil => exact fun s hs => hs
    | cons identity rest ih => exact fun s hs => ih _ (hattempt identity s hs)
  refine ⟨hattempt, fun isCancelled s hs => ?_, fun s w stages hs hshifts => ?_⟩
  · unfold Order.run
    split
    · exact hs
    · exact heach o.identities s hs
  · have hstart : (o.crowd s).1.Using P I := by
      refine ⟨fun strand hstrand => ?_, hs⟩
      obtain ⟨routine, hr, rfl⟩ := List.mem_map.mp hstrand
      obtain ⟨identity, -, rfl⟩ := List.mem_map.mp hr
      exact huses identity
    exact (hstart.shifts hI hshifts).directory

end Order

theorem Store.behaviour_of_looks {c : Call} (hc : c.Looks) (names : Naming) (s : Store) :
    (Store.behaviour names c s).2 = s := by
  cases c with
  | getServicePrincipal | getApplication | getCredential => rfl
  | _ => cases hc

theorem RehearsedStore.behaviour_of_looks {c : Call} (hc : c.Looks) (names : Naming)
    (r : RehearsedStore) : (behaviour names c r).2.store = r.store := by
  have hperform : ∀ r : RehearsedStore, (r.perform names c).2.store = r.store := by
    intro r
    unfold perform
    split
    · rfl
    · exact Store.behaviour_of_looks hc names r.store
  unfold behaviour
  dsimp only
  -- Whatever goes wrong, the call is performed as it is, or not at all.
  split
  · exact hperform _
  · rfl
  · exact hperform _
  · exact hperform _
  · exact hperform _

/-- A dry run makes no calls but lookups, whatever it is answered, and leaves a store as it is,
whatever goes wrong and whenever the token is cancelled. -/
theorem dry_run_looks {o : Order} (hdry : o.dryRun = true) :
    (∀ answer, o.Preserves (.answering answer) fun made => ∀ c ∈ made, c.Looks) ∧
    ∀ names s, o.Preserves (RehearsedStore.behaviour names) fun r => r.store = s := by
  refine ⟨fun answer => ?_, fun names s => ?_⟩
  · refine Order.preserves_of_uses (o.attempt_looks hdry) fun c made hc hmade called hm => ?_
    obtain hm | hm := List.mem_append.mp hm
    · exact hmade called hm
    · exact List.mem_singleton.mp hm ▸ hc
  · refine Order.preserves_of_uses (o.attempt_looks hdry) fun c r hc hr => ?_
    exact (RehearsedStore.behaviour_of_looks hc names r).trans hr

namespace Looking

def spec : CredentialSpec := .basic "gh-main" "https://oidc.example" "repo:acme/payments"

def order : Order :=
  ⟨[⟨"payments", ["tether"], [spec]⟩, ⟨"billing", ["tether"], []⟩], .teardown, true, 2⟩

def start : RehearsedStore :=
  ((provision ⟨"payments", ["tether"], [spec]⟩).run.run (RehearsedStore.behaviour .counted)
    .empty).2.2.prepare []

end Looking

/-- A dry run that reports all of an identity as deleted: everything is still there. -/
theorem dry_run_looks_teardown :
    let (result, r) :=
      Looking.order.run (RehearsedStore.behaviour .counted) (·.cancelled) Looking.start
    Looking.order.dryRun = true ∧
    result.toOption.map (·.changes.map Change.kind) =
      some [.credentialDeleted, .principalDeleted, .applicationDeleted, .identityAbsent] ∧
    r.calls.map Call.kind =
      [.getApplication, .getCredential, .getServicePrincipal, .getApplication] ∧
    r.store = Looking.start.store := by
  have hdry : Looking.order.dryRun = true := rfl
  have hstore := ((dry_run_looks hdry).2 .counted Looking.start.store).run (·.cancelled)
    Looking.start rfl
  exact ⟨hdry, by decide +kernel, by decide +kernel, hstore⟩

end Federation
