import Federation.Proofs.Attempt
import Federation.Proofs.Store

namespace Federation

open Attempt Store

variable (names : Naming)

theorem run_lookup_application (displayName : String) (s : Store) :
    (lookup (.getApplication displayName)).run.run (behaviour names) s =
      (.ok (s.applications.find? (·.displayName = displayName)), [], s) := by
  change (found (s.getApplication displayName), [], s) = _
  unfold getApplication
  cases s.applications.find? (·.displayName = displayName) <;> rfl

theorem run_lookup_principal (displayName : String) (s : Store) :
    (lookup (.getServicePrincipal displayName)).run.run (behaviour names) s =
      (.ok (s.principals.find? (·.displayName = some displayName)), [], s) := by
  change (found (s.getServicePrincipal displayName), [], s) = _
  unfold getServicePrincipal
  cases s.principals.find? (·.displayName = some displayName) <;> rfl

theorem run_lookup_credential (owner : ObjectId) (issuer subject : String) (s : Store)
    (h : s.hasApplication owner = true) :
    (lookup (.getCredential owner issuer subject)).run.run (behaviour names) s =
      (.ok ((s.credentialsOf owner).find? (·.answers issuer subject)), [], s) := by
  change (found (s.getCredential owner issuer subject), [], s) = _
  rw [getCredential_eq, if_pos h]
  cases (s.credentialsOf owner).find? (·.answers issuer subject) <;> rfl

theorem run_lookup_stray_credential (owner : ObjectId) (issuer subject : String) (s : Store)
    (h : s.hasApplication owner = false) :
    (lookup (.getCredential owner issuer subject)).run.run (behaviour names) s =
      (.error (.directory (resourceNotFound owner)), [], s) := by
  change (found (s.getCredential owner issuer subject), [], s) = _
  rw [getCredential_eq, h]
  rfl

theorem run_ensureApplication (displayName : String) (s : Store) :
    (ensureApplication displayName).run.run (behaviour names) s =
      match s.applications.find? (·.displayName = displayName) with
      | some app => (.ok (.existing app), [], s)
      | none =>
        (.ok (.created (names.application displayName
          (s.minted.count (.application displayName)))), [],
          (s.createApplication names displayName).2) := by
  unfold ensureApplication
  rw [run_holding, run_bind_ok _ _ (run_lookup_application names displayName s)]
  cases s.applications.find? (·.displayName = displayName) <;> rfl

theorem run_ensureServicePrincipal (app : Application) (tags : List String) (s : Store) :
    (ensureServicePrincipal app tags).run.run (behaviour names) s =
      match s.principals.find? (·.displayName = some app.displayName) with
      | some principal =>
        (if principal.appId = app.appId then .ok (.existing principal)
          else .error (.appIdMismatch app.displayName app.appId principal.appId), [], s)
      | none =>
        (((s.createServicePrincipal names app.appId tags).1.map .created).mapError .directory, [],
          (s.createServicePrincipal names app.appId tags).2) := by
  unfold ensureServicePrincipal
  rw [run_holding, run_bind_ok _ _ (run_lookup_principal names app.displayName s)]
  cases s.principals.find? (·.displayName = some app.displayName) with
  | some principal =>
    by_cases ha : principal.appId = app.appId
    · simp only [ha, ↓reduceIte]
      rfl
    · simp only [ha, ↓reduceIte]
      rfl
  | none =>
    have hp := run_perform (behaviour names) s (.createServicePrincipal app.appId tags)
    change _ = ((s.createServicePrincipal names app.appId tags).1.mapError _, [],
      (s.createServicePrincipal names app.appId tags).2) at hp
    simp only [run_bind, hp]
    cases (s.createServicePrincipal names app.appId tags).1 <;> rfl

theorem run_ensureCredential_stray (app : Application) (spec : CredentialSpec) (s : Store)
    (h : s.hasApplication app.id = false) :
    (ensureCredential app spec).run.run (behaviour names) s =
      (.error (.directory (resourceNotFound app.id)), [], s) := by
  unfold ensureCredential
  rw [run_holding, run_bind_error _ _
    (run_lookup_stray_credential names app.id spec.issuer spec.subject s h)]

theorem run_ensureCredential (app : Application) (spec : CredentialSpec) (s : Store)
    (h : s.hasApplication app.id = true) :
    (ensureCredential app spec).run.run (behaviour names) s =
      match (s.credentialsOf app.id).find? (·.answers spec.issuer spec.subject) with
      | some c => (.ok (.existing c), [], s)
      | none =>
        if (s.credentialsOf app.id).any (·.name = spec.name) then
          (.error (.directory (credentialExists spec.name)), [], s)
        else (.ok (.created (s.credential names app.id spec)), [],
          (s.addCredential names app.id spec).2) := by
  unfold ensureCredential
  rw [run_holding, run_bind_ok _ _
    (run_lookup_credential names app.id spec.issuer spec.subject s h)]
  cases hf : (s.credentialsOf app.id).find? (·.answers spec.issuer spec.subject) with
  | some c => rfl
  | none =>
    have hp := run_perform (behaviour names) s (.addCredential app.id spec)
    change _ = ((s.addCredential names app.id spec).1.mapError _, [],
      (s.addCredential names app.id spec).2) at hp
    cases hn : (s.credentialsOf app.id).any (·.name = spec.name) with
    | true =>
      rw [addCredential_eq _ _ _ h, hn] at hp
      rw [List.nil_append, run_bind, hp]
      rfl
    | false =>
      have hok : (s.addCredential names app.id spec).1 = .ok () := by
        rw [addCredential_eq _ _ _ h, hn]
        rfl
      rw [hok] at hp
      have hg := getCredential_add names app.id spec h hf hn
      have hr := run_perform (behaviour names) (s.addCredential names app.id spec).2
        (.getCredential app.id spec.issuer spec.subject)
      change _ = ((Store.getCredential _ _ _ _).mapError _, [], _) at hr
      rw [hg] at hr
      rw [List.nil_append]
      simp only [run_bind_ok _ _ hp, run_bind_ok _ _ hr]
      rfl

variable {names} in
theorem run_provision {app : Ensured Application} {principal : Ensured ServicePrincipal}
    {identity : WorkloadIdentity} {s u v : Store}
    (happ : (ensureApplication identity.displayName).run.run (behaviour names) s =
      (.ok app, [], u))
    (hprincipal : (ensureServicePrincipal app.get identity.tags).run.run (behaviour names) u =
      (.ok principal, [], v)) :
    (provision identity).run.run (behaviour names) s =
      let (r, more, t) := (provisionCredentials identity.displayName app.get
        identity.credentials).run.run (behaviour names) v
      (r, applicationChange identity.displayName app ::
        principalChange identity.displayName principal :: more, t) := by
  unfold provision
  simp only [run_bind_ok _ _ happ, run_bind_ok _ _ (run_record _ u _),
    run_bind_ok _ _ hprincipal, run_bind_ok _ _ (run_record _ v _)]
  rfl

end Federation
