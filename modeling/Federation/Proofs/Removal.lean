import Federation.Proofs.Ensure

namespace Federation

open Attempt Store

namespace Store

variable {names : Naming} {s t u : Store} {owner : ObjectId} {app : Application}

/-- But for credentials of the owner, the stores are the same. -/
structure Trimmed (owner : ObjectId) (s t : Store) : Prop where
  applications : t.applications = s.applications
  principals : t.principals = s.principals
  others : t.credentials.filter (·.1 ≠ owner) = s.credentials.filter (·.1 ≠ owner)
  minted : t.minted = s.minted

theorem Trimmed.refl (owner : ObjectId) (s : Store) : Trimmed owner s s := ⟨rfl, rfl, rfl, rfl⟩

theorem Trimmed.trans (h : Trimmed owner s t) (h' : Trimmed owner t u) : Trimmed owner s u :=
  ⟨h'.applications.trans h.applications, h'.principals.trans h.principals,
    h'.others.trans h.others, h'.minted.trans h.minted⟩

theorem Trimmed.hasApplication (h : Trimmed owner s t) (id : ObjectId) :
    t.hasApplication id = s.hasApplication id := by
  rw [Store.hasApplication, Store.hasApplication, h.applications]

theorem trimmed_deleteCredential (owner id : ObjectId) (s : Store) :
    Trimmed owner s (s.deleteCredential owner id).2 := by
  rw [deleteCredential_snd]
  refine ⟨rfl, rfl, ?_, rfl⟩
  rw [List.filter_filter]
  refine List.filter_congr fun e _ => ?_
  by_cases ho : e.1 = owner
  · simp [ho]
  · simp [ho]

def withoutPrincipal (s : Store) (app : Application) : Store :=
  match s.principals.find? (·.displayName = some app.displayName) with
  | some principal =>
    if principal.appId = app.appId then
      { s with principals := s.principals.filter (·.id ≠ principal.id) }
    else s
  | none => s

def principalDeletions (s : Store) (app : Application) : List Change :=
  match s.principals.find? (·.displayName = some app.displayName) with
  | some principal =>
    if principal.appId = app.appId then [.principalDeleted app.displayName principal.id] else []
  | none => []

def without (s : Store) (app : Application) : Store where
  applications := s.applications.filter (·.id ≠ app.id)
  principals := (s.withoutPrincipal app).principals
  credentials := s.credentials.filter (·.1 ≠ app.id)
  minted := s.minted

theorem withoutPrincipal_eq (s : Store) (app : Application) :
    s.withoutPrincipal app = { s with principals := (s.withoutPrincipal app).principals } := by
  unfold withoutPrincipal
  split
  · split <;> rfl
  · rfl

theorem Trimmed.withoutPrincipal (h : Trimmed owner s t) (app : Application) :
    (t.withoutPrincipal app).principals = (s.withoutPrincipal app).principals := by
  unfold Store.withoutPrincipal
  rw [h.principals]
  split
  · split
    · rfl
    · exact h.principals
  · exact h.principals

/-- Which of its credentials were deleted before makes no difference once the application is. -/
theorem Trimmed.without (h : Trimmed app.id s t) : t.without app = s.without app := by
  rw [Store.without, Store.without, h.applications, h.withoutPrincipal app, h.others, h.minted]

theorem deleteApplication_withoutPrincipal (h : s.hasApplication app.id = true) :
    (s.withoutPrincipal app).deleteApplication app.id = (.ok (), s.without app) := by
  rw [withoutPrincipal_eq]
  exact if_pos h

end Store

variable (names : Naming) {s : Store}

theorem run_deleting {c : Call} {a : c.Answer} {t : Store} (h : behaviour names c s = (.ok a, t)) :
    (deleting false c).run.run (behaviour names) s = (.ok (), [], t) := by
  have hp := run_perform (behaviour names) s c
  rw [h] at hp
  unfold deleting
  rw [if_neg Bool.false_ne_true, run_bind_ok _ _ hp]
  rfl

theorem behaviour_deleteCredential {owner : ObjectId} {c : Credential}
    (h : c ∈ s.credentialsOf owner) :
    behaviour names (.deleteCredential owner c.id) s =
      (.ok (), (s.deleteCredential owner c.id).2) := by
  have hany : (s.credentialsOf owner).any (·.id = c.id) = true :=
    List.any_eq_true.mpr ⟨c, h, decide_eq_true rfl⟩
  simp only [behaviour, deleteCredential, hany]
  rfl

theorem behaviour_deleteServicePrincipal {principal : ServicePrincipal}
    (h : principal ∈ s.principals) :
    behaviour names (.deleteServicePrincipal principal.id) s =
      (.ok (), { s with principals := s.principals.filter (·.id ≠ principal.id) }) :=
  if_pos (List.any_eq_true.mpr ⟨principal, h, decide_eq_true rfl⟩)

theorem run_teardownCredentials_missing (dryRun : Bool) (displayName : String) {app : Application}
    {spec : CredentialSpec} (rest : List CredentialSpec) (h : s.hasApplication app.id = true)
    (hf : (s.credentialsOf app.id).find? (·.answers spec.issuer spec.subject) = none) :
    (teardownCredentials dryRun displayName app (spec :: rest)).run.run (behaviour names) s =
      (teardownCredentials dryRun displayName app rest).run.run (behaviour names) s := by
  have hlookup := run_lookup_credential names app.id spec.issuer spec.subject s h
  rw [hf] at hlookup
  rw [teardownCredentials, run_bind_ok _ _ hlookup]
  rfl

theorem run_teardownCredentials_found (dryRun : Bool) (displayName : String) {app : Application}
    {spec : CredentialSpec} (rest : List CredentialSpec) (h : s.hasApplication app.id = true)
    {c : Credential}
    (hf : (s.credentialsOf app.id).find? (·.answers spec.issuer spec.subject) = some c) :
    (teardownCredentials dryRun displayName app (spec :: rest)).run.run (behaviour names) s =
      let (r, more, t) := (teardownCredentials dryRun displayName app rest).run.run
        (behaviour names) (if dryRun then s else (s.deleteCredential app.id c.id).2)
      (r, .credentialDeleted displayName c.name c.id :: more, t) := by
  have hlookup := run_lookup_credential names app.id spec.issuer spec.subject s h
  rw [hf] at hlookup
  rw [teardownCredentials, run_bind_ok _ _ hlookup]
  cases dryRun with
  | true =>
    have hskip : (deleting true (.deleteCredential app.id c.id)).run.run (behaviour names) s =
        (.ok (), [], s) := rfl
    simp only [run_bind_ok _ _ hskip, run_bind_ok _ _ (run_record _ _ _), List.nil_append, if_true]
    rfl
  | false =>
    have hdelete := behaviour_deleteCredential names (List.mem_of_find?_eq_some hf)
    simp only [run_bind_ok _ _ (run_deleting names hdelete), run_bind_ok _ _ (run_record _ _ _),
      List.nil_append, Bool.false_eq_true, if_false]
    rfl

theorem run_teardownCredentials (displayName : String) {app : Application}
    (specs : List CredentialSpec) (h : s.hasApplication app.id = true) :
    ∃ changes t, (teardownCredentials false displayName app specs).run.run (behaviour names) s =
      (.ok (), changes, t) ∧ Trimmed app.id s t := by
  induction specs generalizing s with
  | nil => exact ⟨[], s, rfl, .refl _ s⟩
  | cons spec rest ih =>
    cases hf : (s.credentialsOf app.id).find? (·.answers spec.issuer spec.subject) with
    | none =>
      rw [run_teardownCredentials_missing names false displayName rest h hf]
      exact ih h
    | some c =>
      have htrim := trimmed_deleteCredential app.id c.id s
      obtain ⟨changes, t, hrun, htrimmed⟩ := ih ((htrim.hasApplication app.id).trans h)
      rw [run_teardownCredentials_found names false displayName rest h hf,
        if_neg Bool.false_ne_true, hrun]
      exact ⟨_, t, rfl, htrim.trans htrimmed⟩

theorem run_teardownPrincipal (dryRun : Bool) (app : Application) (s : Store) :
    (teardownPrincipal dryRun app).run.run (behaviour names) s =
      (.ok (), s.principalDeletions app, if dryRun then s else s.withoutPrincipal app) := by
  have hlookup := run_lookup_principal names app.displayName s
  unfold teardownPrincipal withoutPrincipal principalDeletions
  rw [run_bind_ok _ _ hlookup]
  cases hf : s.principals.find? (·.displayName = some app.displayName) with
  | none => cases dryRun <;> rfl
  | some principal =>
    by_cases hid : principal.appId = app.appId
    · cases dryRun with
      | true =>
        simp only [if_pos hid]
        rfl
      | false =>
        have hdelete := behaviour_deleteServicePrincipal names (List.mem_of_find?_eq_some hf)
        simp only [if_pos hid, run_bind_ok _ _ (run_deleting names hdelete), run_record]
        rfl
    · simp only [if_neg hid]
      cases dryRun <;> rfl

theorem run_teardown_absent (dryRun : Bool) (identity : WorkloadIdentity)
    (h : s.applications.find? (·.displayName = identity.displayName) = none) :
    (teardown identity dryRun).run.run (behaviour names) s =
      (.ok (), [.identityAbsent identity.displayName], s) := by
  have hlookup := run_lookup_application names identity.displayName s
  rw [h] at hlookup
  unfold teardown
  rw [run_bind_ok _ _ hlookup]
  rfl

theorem run_teardown_found (dryRun : Bool) {identity : WorkloadIdentity} {app : Application}
    {changes : List Change} {t : Store}
    (h : s.applications.find? (·.displayName = identity.displayName) = some app)
    (hcreds : (teardownCredentials dryRun identity.displayName app identity.credentials).run.run
      (behaviour names) s = (.ok (), changes, t)) (htrimmed : Trimmed app.id s t) :
    (teardown identity dryRun).run.run (behaviour names) s =
      (.ok (), changes ++ s.principalDeletions app ++
        [.applicationDeleted identity.displayName app.id],
        if dryRun then t else s.without app) := by
  have hlookup := run_lookup_application names identity.displayName s
  rw [h] at hlookup
  have hprincipal := run_teardownPrincipal names dryRun app t
  have hsame : t.principalDeletions app = s.principalDeletions app := by
    rw [principalDeletions, principalDeletions, htrimmed.principals]
  rw [hsame] at hprincipal
  unfold teardown
  rw [run_bind_ok _ _ hlookup]
  cases dryRun with
  | true =>
    have hskip : (deleting true (.deleteApplication app.id)).run.run (behaviour names) t =
        (.ok (), [], t) := rfl
    rw [if_pos rfl] at hprincipal
    simp only [run_bind_ok _ _ hcreds, run_bind_ok _ _ hprincipal, run_bind_ok _ _ hskip,
      run_record, List.nil_append, List.append_assoc]
    rfl
  | false =>
    rw [if_neg Bool.false_ne_true] at hprincipal
    have happ : t.hasApplication app.id = true :=
      (htrimmed.hasApplication app.id).trans (hasApplication_of_mem (List.mem_of_find?_eq_some h))
    have hdelete : behaviour names (.deleteApplication app.id) (t.withoutPrincipal app) =
        (.ok (), s.without app) := by
      rw [← htrimmed.without]
      exact deleteApplication_withoutPrincipal happ
    simp only [run_bind_ok _ _ hcreds, run_bind_ok _ _ hprincipal,
      run_bind_ok _ _ (run_deleting names hdelete), run_record, List.nil_append, List.append_assoc]
    rfl

/-- A teardown gets through, and leaves the store without the first application of the name and
what belongs to it. -/
theorem run_teardown {identity : WorkloadIdentity} {app : Application}
    (h : s.applications.find? (·.displayName = identity.displayName) = some app) :
    ∃ changes, (teardown identity false).run.run (behaviour names) s =
      (.ok (), changes ++ [.applicationDeleted identity.displayName app.id], s.without app) := by
  have happ : s.hasApplication app.id = true :=
    hasApplication_of_mem (List.mem_of_find?_eq_some h)
  obtain ⟨changes, t, hcreds, htrimmed⟩ :=
    run_teardownCredentials names identity.displayName identity.credentials happ
  exact ⟨_, run_teardown_found names false h hcreds htrimmed⟩

end Federation
