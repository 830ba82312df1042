import Federation.Proofs.Attempt
import Federation.Proofs.Locality
import Federation.Reconcile.Run

namespace Federation

open Store

def Uncut {α : Type} (Q : α → Prop) : Except ReconcileError α → Prop
  | .ok a => Q a
  | .error e => e.isCancelled = false

/-- With a live token the routine makes calls about the display name only, and comes to what the
condition allows. -/
def Routine.KeepsTo (names : Naming) (a : String) {α : Type} (post : α → Prop) :
    Routine α → Prop
  | .done r => post r
  | .call c next =>
    c.About names a ∧ ∀ s, s.Traced names → (next (behaviour names c s).1).KeepsTo names a post
  | .acquire _ next | .release _ next | .record _ next => next.KeepsTo names a post

namespace Routine

variable {names : Naming} {a : String} {α β : Type}

theorem run_call {σ : Type} (d : Behaviour σ) (c : Call) (next : c.Outcome → Routine α) (s : σ) :
    (Routine.call c next).run d s = (next (d c s).1).run d (d c s).2 := rfl

theorem KeepsTo.bind {mid : α → Prop} {post : β → Prop} {m : Routine α} {f : α → Routine β}
    (hm : m.KeepsTo names a mid) (hf : ∀ r, mid r → (f r).KeepsTo names a post) :
    (m.bind f).KeepsTo names a post := by
  induction m with
  | done r => exact hf r hm
  | call c next ih => exact ⟨hm.1, fun s hs => ih _ (hm.2 s hs)⟩
  | acquire _ next ih | release _ next ih | record _ next ih => exact ih hm

theorem traced_run (m : Routine α) {s : Store} (hs : s.Traced names) :
    (m.run (behaviour names) s).2.2.Traced names := by
  induction m generalizing s with
  | done r => exact hs
  | call c next ih => exact ih _ (hs.call c)
  | acquire _ next ih | release _ next ih | record _ next ih => exact ih hs

/-- In stores that are alike under its name a routine comes to the same. -/
theorem KeepsTo.run_alike (hn : names.Distinct) {post : α → Prop} {m : Routine α}
    (hm : m.KeepsTo names a post) {P : String → Bool} (ha : P a = true) {s t : Store}
    (hs : s.Traced names) (ht : t.Traced names) (h : Alike names P s t) :
    (m.run (behaviour names) s).1 = (m.run (behaviour names) t).1 ∧
      (m.run (behaviour names) s).2.1 = (m.run (behaviour names) t).2.1 ∧
      Alike names P (m.run (behaviour names) s).2.2 (m.run (behaviour names) t).2.2 := by
  induction m generalizing s t with
  | done r => exact ⟨rfl, rfl, h⟩
  | call c next ih =>
    obtain ⟨hsame, halike⟩ := h.call hn hs ht ha hm.1
    have hnext := ih _ (hm.2 s hs) (hs.call c) (ht.call c) halike
    rw [run_call, run_call, ← hsame]
    exact hnext
  | acquire _ next ih | release _ next ih => exact ih hm hs ht h
  | record change next ih =>
    obtain ⟨hresult, hchanges, halike⟩ := ih hm hs ht h
    exact ⟨hresult, congrArg (change :: ·) hchanges, halike⟩

/-- Under other names a routine changes nothing. -/
theorem KeepsTo.run_other (hn : names.Distinct) {post : α → Prop} {m : Routine α}
    (hm : m.KeepsTo names a post) {P : String → Bool} (ha : P a = false) {s : Store}
    (hs : s.Traced names) : Alike names P (m.run (behaviour names) s).2.2 s := by
  induction m generalizing s with
  | done r => exact .refl s
  | call c next ih =>
    exact (ih _ (hm.2 s hs) (hs.call c)).trans (alike_call hn hs ha hm.1)
  | acquire _ next ih | release _ next ih | record _ next ih => exact ih hm hs

end Routine

namespace Attempt

variable {names : Naming} {a : String} {α β : Type} {Q : α → Prop}

abbrev KeepsTo (names : Naming) (a : String) (Q : α → Prop) (m : Attempt α) : Prop :=
  m.run.KeepsTo names a (Uncut Q)

theorem KeepsTo.andThen {R : β → Prop} {m : Attempt β} {f : β → Attempt α}
    (hm : KeepsTo names a R m) (hf : ∀ b, R b → KeepsTo names a Q (f b)) :
    KeepsTo names a Q (m >>= f) := by
  refine Routine.KeepsTo.bind hm fun r hr => ?_
  cases r with
  | ok b => exact hf b hr
  | error e => exact hr

theorem KeepsTo.perform {c : Call} {Q : c.Answer → Prop} (hc : c.About names a)
    (hok : ∀ s, s.Traced names → ∀ x, (behaviour names c s).1 = .ok x → Q x) :
    KeepsTo names a Q (perform c) := by
  refine ⟨hc, fun s hs => ?_⟩
  cases hr : (behaviour names c s).1 with
  | ok x => exact hok s hs x hr
  | error e =>
    have hlive : e.isCancelled = false := isCancelled_behaviour hr
    exact hlive

theorem KeepsTo.lookup {c : Call} {Q : Option c.Answer → Prop} (hc : c.About names a)
    (hnone : Q none) (hsome : ∀ s, s.Traced names → ∀ x, (behaviour names c s).1 = .ok x →
      Q (some x)) : KeepsTo names a Q (lookup c) := by
  refine ⟨hc, fun s hs => ?_⟩
  cases hr : (behaviour names c s).1 with
  | ok x => exact hsome s hs x hr
  | error e =>
    have hlive : e.isCancelled = false := isCancelled_behaviour hr
    change Uncut Q (if e.isNotFound then .ok none else .error (.directory e))
    cases e.isNotFound with
    | true => exact hnone
    | false => exact hlive

theorem KeepsTo.perform_any {c : Call} (hc : c.About names a) :
    KeepsTo names a (fun _ => True) (Attempt.perform c) :=
  KeepsTo.perform hc fun _ _ _ _ => trivial

theorem KeepsTo.lookup_any {c : Call} (hc : c.About names a) :
    KeepsTo names a (fun _ => True) (Attempt.lookup c) :=
  KeepsTo.lookup hc trivial fun _ _ _ _ => trivial

theorem record_keepsTo (a : String) (change : Change) :
    KeepsTo names a (fun _ => True) (record change) := trivial

theorem KeepsTo.holding {key : String} {body : Attempt α} (h : KeepsTo names a Q body) :
    KeepsTo names a Q (holding key body) :=
  Routine.KeepsTo.bind (m := body.run) h fun _ hr => hr

end Attempt

open Attempt

variable {names : Naming}

theorem lookup_application_keepsTo (a : String) :
    KeepsTo names a (fun found => ∀ app ∈ found, ∃ n, app = names.application a n)
      (lookup (.getApplication a)) := by
  refine KeepsTo.lookup rfl (fun _ h => nomatch h) fun s hs app hr => ?_
  rintro _ ⟨⟩
  change s.getApplication a = _ at hr
  unfold getApplication at hr
  cases hf : s.applications.find? (·.displayName = a) with
  | none =>
    rw [hf] at hr
    cases hr
  | some found =>
    rw [hf] at hr
    cases hr
    obtain ⟨n, -, he⟩ := hs.made _ (List.mem_of_find?_eq_some hf)
    have hname : app.displayName = a := by simpa using List.find?_some hf
    rw [hname] at he
    exact ⟨n, he⟩

theorem lookup_principal_keepsTo (a : String) :
    KeepsTo names a (fun found => ∀ p ∈ found, ∃ n, p.id = names.principalId (some a) n)
      (lookup (.getServicePrincipal a)) := by
  refine KeepsTo.lookup rfl (fun _ h => nomatch h) fun s hs p hr => ?_
  rintro _ ⟨⟩
  change s.getServicePrincipal a = _ at hr
  unfold getServicePrincipal at hr
  cases hf : s.principals.find? (·.displayName = some a) with
  | none =>
    rw [hf] at hr
    cases hr
  | some found =>
    rw [hf] at hr
    cases hr
    obtain ⟨b, m, n, hname, -, hid⟩ := hs.named _ (List.mem_of_find?_eq_some hf)
    have hsame : p.displayName = some a := by simpa using List.find?_some hf
    obtain rfl : a = b := Option.some.inj (hsame.symm.trans hname)
    exact ⟨n, hid⟩

theorem ensureApplication_keepsTo (a : String) :
    KeepsTo names a (fun app => ∃ n, app.get = names.application a n) (ensureApplication a) := by
  refine KeepsTo.holding (KeepsTo.andThen (lookup_application_keepsTo a) fun found hfound => ?_)
  cases found with
  | some app => exact hfound app rfl
  | none =>
    refine KeepsTo.andThen (R := fun app => ∃ n, app = names.application a n)
      (KeepsTo.perform rfl fun s _ app hr => ?_) fun app happ => happ
    cases hr
    exact ⟨_, rfl⟩

theorem ensureServicePrincipal_keepsTo {a : String} {n : Nat} (tags : List String) :
    KeepsTo names a (fun _ => True) (ensureServicePrincipal (names.application a n) tags) := by
  refine KeepsTo.holding (KeepsTo.andThen (lookup_principal_keepsTo a) fun found _ => ?_)
  cases found with
  | some p =>
    by_cases hp : p.appId = (names.application a n).appId
    · simp only [hp, ↓reduceIte]
      exact trivial
    · simp only [hp, ↓reduceIte]
      exact rfl
  | none => exact KeepsTo.andThen (KeepsTo.perform_any ⟨n, rfl⟩) fun _ _ => trivial

theorem ensureCredential_keepsTo {a : String} {n : Nat} (spec : CredentialSpec) :
    KeepsTo names a (fun _ => True) (ensureCredential (names.application a n) spec) := by
  refine KeepsTo.holding (KeepsTo.andThen (KeepsTo.lookup_any ⟨n, rfl⟩) fun found _ => ?_)
  cases found with
  | some c => exact trivial
  | none =>
    refine KeepsTo.andThen (KeepsTo.perform_any ⟨n, rfl⟩) fun _ _ => ?_
    exact KeepsTo.andThen (KeepsTo.perform_any ⟨n, rfl⟩) fun _ _ => trivial

theorem provisionCredentials_keepsTo {a : String} {n : Nat} (displayName : String)
    (specs : List CredentialSpec) :
    KeepsTo names a (fun _ => True)
      (provisionCredentials displayName (names.application a n) specs) := by
  induction specs with
  | nil => exact trivial
  | cons spec rest ih =>
    unfold provisionCredentials
    exact KeepsTo.andThen (ensureCredential_keepsTo spec) fun _ _ =>
      KeepsTo.andThen (record_keepsTo a _) fun _ _ => ih

theorem provision_keepsTo (identity : WorkloadIdentity) :
    KeepsTo names identity.displayName (fun _ => True) (provision identity) := by
  unfold provision
  refine KeepsTo.andThen (ensureApplication_keepsTo _) fun app ⟨n, happ⟩ => ?_
  refine KeepsTo.andThen (record_keepsTo _ _) fun _ _ => ?_
  rw [happ]
  refine KeepsTo.andThen (ensureServicePrincipal_keepsTo _) fun _ _ => ?_
  refine KeepsTo.andThen (record_keepsTo _ _) fun _ _ => ?_
  exact provisionCredentials_keepsTo _ identity.credentials

theorem planCredentials_keepsTo {a : String} {n : Nat} (displayName : String)
    (specs : List CredentialSpec) :
    KeepsTo names a (fun _ => True) (planCredentials displayName (names.application a n) specs) := by
  induction specs with
  | nil => exact trivial
  | cons spec rest ih =>
    unfold planCredentials
    refine KeepsTo.andThen (KeepsTo.lookup_any ⟨n, rfl⟩) fun found _ => ?_
    cases found with
    | some c => exact KeepsTo.andThen (record_keepsTo a _) fun _ _ => ih
    | none => exact KeepsTo.andThen (record_keepsTo a _) fun _ _ => ih

theorem planAll_keepsTo (identity : WorkloadIdentity) (a : String) :
    KeepsTo names a (fun _ => True) (planAll identity) := by
  unfold planAll
  refine KeepsTo.andThen (record_keepsTo a _) fun _ _ => ?_
  refine KeepsTo.andThen (record_keepsTo a _) fun _ _ => ?_
  induction identity.credentials with
  | nil => exact trivial
  | cons spec rest ih => exact KeepsTo.andThen (record_keepsTo a _) fun _ _ => ih

theorem planProvision_keepsTo (identity : WorkloadIdentity) :
    KeepsTo names identity.displayName (fun _ => True) (planProvision identity) := by
  unfold planProvision
  refine KeepsTo.andThen (lookup_application_keepsTo _) fun app happ => ?_
  cases app with
  | none => exact planAll_keepsTo identity _
  | some app =>
    obtain ⟨n, rfl⟩ := happ app rfl
    refine KeepsTo.andThen (record_keepsTo _ _) fun _ _ => ?_
    refine KeepsTo.andThen (lookup_principal_keepsTo _) fun principal _ => ?_
    have hcreds : KeepsTo names identity.displayName (fun _ => True)
        (planCredentials identity.displayName (names.application identity.displayName n)
          identity.credentials) := planCredentials_keepsTo _ _
    cases principal with
    | none => exact KeepsTo.andThen (record_keepsTo _ _) fun _ _ => hcreds
    | some principal =>
      by_cases hp : principal.appId = (names.application identity.displayName n).appId
      · simp only [hp, ↓reduceIte]
        exact KeepsTo.andThen (record_keepsTo _ _) fun _ _ => hcreds
      · simp only [hp, ↓reduceIte]
        exact rfl

theorem deleting_keepsTo {a : String} (dryRun : Bool) {c : Call} (hc : c.About names a) :
    KeepsTo names a (fun _ => True) (deleting dryRun c) := by
  unfold deleting
  cases dryRun with
  | true => exact trivial
  | false => exact KeepsTo.andThen (KeepsTo.perform_any hc) fun _ _ => trivial

theorem teardownCredentials_keepsTo {a : String} {n : Nat} (dryRun : Bool) (displayName : String)
    (specs : List CredentialSpec) :
    KeepsTo names a (fun _ => True)
      (teardownCredentials dryRun displayName (names.application a n) specs) := by
  induction specs with
  | nil => exact trivial
  | cons spec rest ih =>
    unfold teardownCredentials
    refine KeepsTo.andThen (KeepsTo.lookup_any ⟨n, rfl⟩) fun found _ => ?_
    cases found with
    | none => exact ih
    | some c =>
      refine KeepsTo.andThen (deleting_keepsTo dryRun ⟨n, rfl⟩) fun _ _ => ?_
      exact KeepsTo.andThen (record_keepsTo a _) fun _ _ => ih

theorem teardownPrincipal_keepsTo {a : String} {n : Nat} (dryRun : Bool) :
    KeepsTo names a (fun _ => True) (teardownPrincipal dryRun (names.application a n)) := by
  unfold teardownPrincipal
  refine KeepsTo.andThen (lookup_principal_keepsTo a) fun principal hprincipal => ?_
  cases principal with
  | none => exact trivial
  | some principal =>
    obtain ⟨k, hid⟩ := hprincipal principal rfl
    by_cases hp : principal.appId = (names.application a n).appId
    · simp only [hp, ↓reduceIte]
      exact KeepsTo.andThen (deleting_keepsTo dryRun ⟨k, hid⟩) fun _ _ => record_keepsTo a _
    · simp only [hp, ↓reduceIte]
      exact trivial

theorem teardown_keepsTo (identity : WorkloadIdentity) (dryRun : Bool) :
    KeepsTo names identity.displayName (fun _ => True) (teardown identity dryRun) := by
  unfold teardown
  refine KeepsTo.andThen (lookup_application_keepsTo _) fun app happ => ?_
  cases app with
  | none => exact record_keepsTo _ _
  | some app =>
    obtain ⟨n, rfl⟩ := happ app rfl
    refine KeepsTo.andThen (teardownCredentials_keepsTo dryRun _ identity.credentials) fun _ _ => ?_
    refine KeepsTo.andThen (teardownPrincipal_keepsTo dryRun) fun _ _ => ?_
    exact KeepsTo.andThen (deleting_keepsTo dryRun ⟨n, rfl⟩) fun _ _ => record_keepsTo _ _

theorem Order.attempt_keepsTo (o : Order) (identity : WorkloadIdentity) :
    KeepsTo names identity.displayName (fun _ => True) (o.attempt identity) := by
  unfold Order.attempt
  cases o.action with
  | provision =>
    cases o.dryRun with
    | false => exact provision_keepsTo identity
    | true => exact planProvision_keepsTo identity
  | teardown => exact teardown_keepsTo identity o.dryRun

end Federation
