import Federation.Proofs.Confirmed
import Federation.Proofs.Excision
import Federation.Proofs.Growth

namespace Federation

open Attempt Store

namespace Ensuring

def Asked : (e : Ensuring) → e.aim.call.Answer → Prop
  | .application displayName, app => app.displayName = displayName
  | .principal app tags, p =>
    p.displayName = some app.displayName ∧ p.appId = app.appId ∧ p.tags = tags
  | .credential _ spec, c =>
    c.name = spec.name ∧ c.issuer = spec.issuer ∧ c.subject = spec.subject ∧
      c.audiences = spec.audiences ∧ c.description = spec.description

def Appends : (e : Ensuring) → e.aim.call.Answer → Store → Store → Prop
  | .application _, app, s, t => s.Adds [app] [] [] t
  | .principal _ _, p, s, t => s.Adds [] [p] [] t
  | .credential app _, c, s, t => s.Adds [] [] [(app.id, c)] t

/-- What stands in the way of an object: the first service principal of the name belongs to another
application, or no credential has the issuer and subject but one has the name. -/
inductive Barred (s : Store) : Ensuring → ReconcileError → Prop
  | foreign {app : Application} {tags : List String} {p : ServicePrincipal}
      (hp : s.principals.find? (·.displayName = some app.displayName) = some p)
      (hid : p.appId ≠ app.appId) :
    Barred s (.principal app tags) (.appIdMismatch app.displayName app.appId p.appId)
  | taken {app : Application} {spec : CredentialSpec} (h : s.Taken app.id spec) :
    Barred s (.credential app spec) (.directory (credentialExists spec.name))

variable {names : Naming} {s t : Store} {e : Ensuring}

def Sees (names : Naming) (e : Ensuring) (s : Store) (v : e.aim.call.Answer) : Prop :=
  behaviour names e.aim.call s = (.ok v, s) ∧ e.foreign? v = none

theorem Sees.run {v : e.aim.call.Answer} (h : e.Sees names s v) :
    e.ensure.run.run (behaviour names) s = (.ok (.existing v), [], s) := by
  rw [run_ensure, h.1]
  simp only [found, run_taking, h.2]

theorem sees_application (names : Naming) {displayName : String} {app : Application}
    (h : s.applications.find? (·.displayName = displayName) = some app) :
    (Ensuring.application displayName).Sees names s app := by
  refine ⟨?_, rfl⟩
  change (s.getApplication displayName, s) = _
  rw [getApplication, h]
  rfl

theorem sees_principal (names : Naming) {app : Application} (tags : List String)
    {p : ServicePrincipal}
    (h : s.principals.find? (·.displayName = some app.displayName) = some p)
    (hid : p.appId = app.appId) : (Ensuring.principal app tags).Sees names s p := by
  refine ⟨?_, if_pos hid⟩
  change (s.getServicePrincipal app.displayName, s) = _
  rw [getServicePrincipal, h]
  rfl

theorem sees_credential (names : Naming) {app : Application} {spec : CredentialSpec}
    {c : Credential} (hs : s.hasApplication app.id = true) (h : s.Finds app.id spec c) :
    (Ensuring.credential app spec).Sees names s c := by
  refine ⟨?_, rfl⟩
  change (s.getCredential app.id spec.issuer spec.subject, s) = _
  rw [getCredential_eq, if_pos hs, h]
  rfl

theorem Barred.run {why : ReconcileError} (h : Barred s e why)
    (happ : ∀ app ∈ e.application?, app ∈ s.applications) :
    e.ensure.run.run (behaviour names) s = (.error why, [], s) := by
  cases h with
  | @foreign app tags p hp hid =>
    have hrun := run_ensureServicePrincipal names app tags s
    rw [hp] at hrun
    simp only [if_neg hid] at hrun
    exact hrun
  | @taken app spec h =>
    have hrun := run_ensureCredential names app spec s (hasApplication_of_mem (happ app rfl))
    rw [h.1, h.2] at hrun
    exact hrun

inductive Ends (names : Naming) (e : Ensuring) (s : Store) :
    Except ReconcileError (Ensured e.aim.call.Answer) × List Change × Store → Prop
  | barred {why : ReconcileError} (h : Barred s e why) : Ends names e s (.error why, [], s)
  | existing {v : e.aim.call.Answer} (h : e.Sees names s v) :
    Ends names e s (.ok (.existing v), [], s)
  | created {v : e.aim.call.Answer} {t : Store} (happends : e.Appends v s t) (hasked : e.Asked v)
      (h : e.Sees names t v) : Ends names e s (.ok (.created v), [], t)

theorem ends_application (names : Naming) (displayName : String) (s : Store) :
    (Ensuring.application displayName).Ends names s
      ((Ensuring.application displayName).ensure.run.run (behaviour names) s) := by
  obtain ⟨x, t, hrun, hadds, hfind⟩ := ensureApplication_settles names displayName s
  cases x with
  | existing app =>
    have hsame : t.applications = s.applications :=
      hadds.applications.trans (List.append_nil _)
    rw [hsame] at hfind
    have hsees := sees_application names hfind
    exact hsees.run ▸ .existing hsees
  | created app =>
    change (Ensuring.application displayName).ensure.run.run (behaviour names) s = _ at hrun
    rw [hrun]
    have hfound := List.find?_some hfind
    have hname : app.displayName = displayName := of_decide_eq_true hfound
    exact .created hadds hname (sees_application names hfind)

theorem ends_principal (hn : names.Distinct) (hs : s.Sound names) {app : Application}
    (ha : app ∈ s.applications) (tags : List String) :
    (Ensuring.principal app tags).Ends names s
      ((Ensuring.principal app tags).ensure.run.run (behaviour names) s) := by
  obtain ⟨p, hp, hid, hrun⟩ | ⟨x, t, hrun, hadds, hfind, hbound, htags⟩ :=
    ensureServicePrincipal_settles hn hs ha tags
  · exact hrun ▸ .barred (.foreign hp hid)
  cases x with
  | existing p =>
    have hsame : t.principals = s.principals := hadds.principals.trans (List.append_nil _)
    rw [hsame] at hfind
    have hsees := sees_principal names tags hfind hbound
    exact hsees.run ▸ .existing hsees
  | created p =>
    change (Ensuring.principal app tags).ensure.run.run (behaviour names) s = _ at hrun
    rw [hrun]
    have hfound := List.find?_some hfind
    have hname : p.displayName = some app.displayName := of_decide_eq_true hfound
    refine .created hadds ⟨hname, hbound, ?_⟩ (sees_principal names tags hfind hbound)
    exact htags p List.mem_cons_self

theorem ends_credential {app : Application} (ha : app ∈ s.applications) (spec : CredentialSpec) :
    (Ensuring.credential app spec).Ends names s
      ((Ensuring.credential app spec).ensure.run.run (behaviour names) s) := by
  have happ : s.hasApplication app.id = true := hasApplication_of_mem ha
  obtain ⟨htaken, hrun⟩ | ⟨x, t, hrun, hadds, hfind, hspec⟩ :=
    ensureCredential_settles names spec happ
  · exact hrun ▸ .barred (.taken htaken)
  cases x with
  | existing c =>
    have hsame : t.credentialsOf app.id = s.credentialsOf app.id := by
      have hcredentials := hadds.credentials
      unfold credentialsOf
      rw [hcredentials, List.filterMap_append]
      exact List.append_nil _
    have hfound : s.Finds app.id spec c := by
      unfold Finds at hfind ⊢
      rwa [hsame] at hfind
    have hsees := sees_credential names happ hfound
    exact hsees.run ▸ .existing hsees
  | created c =>
    obtain rfl := hspec c List.mem_cons_self
    change (Ensuring.credential app spec).ensure.run.run (behaviour names) s = _ at hrun
    rw [hrun]
    refine .created hadds ⟨rfl, rfl, rfl, rfl, rfl⟩ ?_
    exact sees_credential names (hadds.grown.hasApplication happ) hfind

/-- Ensuring an object fails exactly where something stands in its way. It changes the store only
when it creates the object, as asked for and as all that is new. The object that was ensured is
found, and ensuring it again gives it as existing. -/
structure Concludes (names : Naming) (e : Ensuring) (s : Store)
    (result : Except ReconcileError (Ensured e.aim.call.Answer)) (t : Store) : Prop where
  fails : ∀ why, result = .error why ↔ Barred s e why
  unchanged : (∀ v, result ≠ .ok (.created v)) → t = s
  creates : ∀ v, result = .ok (.created v) → e.Appends v s t ∧ e.Asked v
  finds : ∀ x, result = .ok x → (behaviour names e.aim.call t).1 = .ok x.get
  again : ∀ x, result = .ok x →
    e.ensure.run.run (behaviour names) t = (.ok (.existing x.get), [], t)

theorem Ends.concludes {changes : List Change}
    {result : Except ReconcileError (Ensured e.aim.call.Answer)}
    (h : e.Ends names s (result, changes, t))
    (hbarred : ∀ why, Barred s e why → result = .error why) : e.Concludes names s result t := by
  constructor
  · intro why
    refine ⟨fun hwhy => ?_, hbarred why⟩
    cases h with
    | barred h =>
      cases hwhy
      exact h
    | existing | created => cases hwhy
  · intro hnone
    cases h with
    | barred | existing => rfl
    | @created v => exact absurd rfl (hnone v)
  · intro v hv
    cases h with
    | barred | existing => cases hv
    | created happends hasked =>
      cases hv
      exact ⟨happends, hasked⟩
  · intro x hx
    cases h with
    | barred => cases hx
    | existing h | created _ _ h =>
      cases hx
      rw [h.1]
      rfl
  · intro x hx
    cases h with
    | barred => cases hx
    | existing h | created _ _ h =>
      cases hx
      exact h.run

end Ensuring

/-- On every store that calls lead to, whatever object is ensured, for an application that is
stored. -/
theorem ensuring_concludes {names : Naming} (hn : names.Distinct) {s : Store}
    (hs : s.Reachable names) (e : Ensuring)
    (happ : ∀ app ∈ e.application?, app ∈ s.applications) :
    let (result, _, t) := e.ensure.run.run (behaviour names) s
    e.Concludes names s result t := by
  have hends : e.Ends names s (e.ensure.run.run (behaviour names) s) := by
    cases e with
    | application displayName => exact Ensuring.ends_application names displayName s
    | principal app tags => exact Ensuring.ends_principal hn hs.sound (happ app rfl) tags
    | credential app spec => exact Ensuring.ends_credential (happ app rfl) spec
  apply hends.concludes
  intro why hwhy
  rw [hwhy.run happ]

/-- The service principal of the name is that of an application deleted before, and stands in the
way. Nothing does for a credential with a pair and a name of its own. -/
theorem ensuring_concludes_namesakes :
    let app := Naming.placed.application "payments" 1
    let spec := Excision.spec "gh-new" "new"
    let run := fun e : Ensuring => e.ensure.run.run (behaviour .placed) Excision.store
    let principal := run (.principal app ["tether"])
    let credential := run (.credential app spec)
    Naming.placed.Distinct ∧ Excision.store.Reachable .placed ∧ app ∈ Excision.store.applications ∧
    (Ensuring.principal app ["tether"]).Concludes .placed Excision.store principal.1
      principal.2.2 ∧
    (Ensuring.credential app spec).Concludes .placed Excision.store credential.1 credential.2.2 ∧
    principal.1 = .error (.appIdMismatch "payments" "1#payments" "0#payments") ∧
    credential.1 = .ok (.created (Excision.store.credential .placed app.id spec)) := by
  have happ : Naming.placed.application "payments" 1 ∈ Excision.store.applications := by decide
  have hconcludes := ensuring_concludes Naming.placed_fresh.toDistinct Excision.store_reachable
  refine ⟨Naming.placed_fresh.toDistinct, Excision.store_reachable, happ, ?_, ?_, ?_, ?_⟩
  · apply hconcludes (.principal _ ["tether"])
    intro app h
    cases h
    exact happ
  · apply hconcludes (.credential _ (Excision.spec "gh-new" "new"))
    intro app h
    cases h
    exact happ
  · rfl
  · rfl

end Federation
