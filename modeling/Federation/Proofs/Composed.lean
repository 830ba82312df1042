import Federation.Reconcile.Run

namespace Federation

/-- The parts of errands have the property, and so does what is put together from such. -/
structure Attempt.Composes (P : ∀ {α : Type}, Attempt α → Prop) : Prop where
  pure : ∀ {α : Type} (a : α), P (pure a : Attempt α)
  throw : ∀ {α : Type} (e : ReconcileError), P (throw e : Attempt α)
  bind : ∀ {α β : Type} {m : Attempt β} {f : β → Attempt α}, P m → (∀ b, P (f b)) → P (m >>= f)
  lookup : ∀ c, P (lookup c)
  perform : ∀ c, P (perform c)
  record : ∀ change, P (record change)
  application : ∀ displayName, P (ensureApplication displayName)
  principal : ∀ app tags, P (ensureServicePrincipal app tags)
  credential : ∀ app spec, P (ensureCredential app spec)

namespace Attempt.Composes

variable {P : ∀ {α : Type}, Attempt α → Prop} (h : Attempt.Composes P)
include h

theorem provisionCredentials (displayName : String) (app : Application)
    (specs : List CredentialSpec) : P (provisionCredentials displayName app specs) := by
  induction specs with
  | nil => exact h.pure _
  | cons spec rest ih =>
    exact h.bind (h.credential app spec) fun _ => h.bind (h.record _) fun _ => ih

theorem provision (identity : WorkloadIdentity) : P (provision identity) := by
  refine h.bind (h.application _) fun app => h.bind (h.record _) fun _ => ?_
  refine h.bind (h.principal _ _) fun _ => h.bind (h.record _) fun _ => ?_
  exact h.provisionCredentials _ _ _

theorem planCredentials (displayName : String) (app : Application)
    (specs : List CredentialSpec) : P (planCredentials displayName app specs) := by
  induction specs with
  | nil => exact h.pure _
  | cons spec rest ih =>
    refine h.bind (h.lookup _) fun found => ?_
    cases found with
    | some credential => exact h.bind (h.record _) fun _ => ih
    | none => exact h.bind (h.record _) fun _ => ih

theorem planAll (identity : WorkloadIdentity) : P (planAll identity) := by
  refine h.bind (h.record _) fun _ => h.bind (h.record _) fun _ => ?_
  induction identity.credentials with
  | nil => exact h.pure _
  | cons spec rest ih => exact h.bind (h.record _) fun _ => ih

theorem planProvision (identity : WorkloadIdentity) : P (planProvision identity) := by
  refine h.bind (h.lookup _) fun app => ?_
  cases app with
  | none => exact h.planAll identity
  | some app =>
    refine h.bind (h.record _) fun _ => h.bind (h.lookup _) fun principal => ?_
    have hcredentials := h.planCredentials identity.displayName app identity.credentials
    cases principal with
    | none => exact h.bind (h.record _) fun _ => hcredentials
    | some principal =>
      dsimp only
      split
      · exact h.bind (h.record _) fun _ => hcredentials
      · exact h.bind (h.throw _) fun _ => hcredentials

theorem deleting (dryRun : Bool) (c : Call) : P (deleting dryRun c) := by
  unfold Federation.deleting
  split
  · exact h.pure _
  · exact h.bind (h.perform c) fun _ => h.pure _

theorem teardownCredentials (dryRun : Bool) (displayName : String) (app : Application)
    (specs : List CredentialSpec) : P (teardownCredentials dryRun displayName app specs) := by
  induction specs with
  | nil => exact h.pure _
  | cons spec rest ih =>
    refine h.bind (h.lookup _) fun found => ?_
    cases found with
    | none => exact ih
    | some credential =>
      exact h.bind (h.deleting _ _) fun _ => h.bind (h.record _) fun _ => ih

theorem teardownPrincipal (dryRun : Bool) (app : Application) :
    P (teardownPrincipal dryRun app) := by
  refine h.bind (h.lookup _) fun found => ?_
  cases found with
  | none => exact h.pure _
  | some principal =>
    dsimp only
    split
    · exact h.bind (h.deleting _ _) fun _ => h.record _
    · exact h.pure _

theorem teardown (identity : WorkloadIdentity) (dryRun : Bool) : P (teardown identity dryRun) := by
  refine h.bind (h.lookup _) fun app => ?_
  cases app with
  | none => exact h.record _
  | some app =>
    refine h.bind (h.teardownCredentials _ _ _ _) fun _ => ?_
    refine h.bind (h.teardownPrincipal _ _) fun _ => ?_
    exact h.bind (h.deleting _ _) fun _ => h.record _

theorem attempt (o : Order) (identity : WorkloadIdentity) : P (o.attempt identity) := by
  unfold Order.attempt
  cases o.action with
  | provision =>
    cases o.dryRun with
    | false => exact h.provision identity
    | true => exact h.planProvision identity
  | teardown => exact h.teardown identity o.dryRun

end Attempt.Composes

end Federation
