import Federation.Proofs.Ensure

namespace Federation

open Attempt Store

/-- The change as a plan has it: what is only to be made has no object id yet. -/
def Change.planned : Change → Change
  | .applicationCreated displayName _ => .applicationCreated displayName none
  | .principalCreated displayName _ => .principalCreated displayName none
  | .credentialAdded displayName name issuer subject _ =>
    .credentialAdded displayName name issuer subject none
  | c => c

namespace Store

/-- The application has no credential of the issuer and subject, but another of the name. -/
def Taken (s : Store) (owner : ObjectId) (spec : CredentialSpec) : Prop :=
  (s.credentialsOf owner).find? (·.answers spec.issuer spec.subject) = none ∧
    (s.credentialsOf owner).any (·.name = spec.name) = true

def Agree (owner : ObjectId) (s t : Store) (spec : CredentialSpec) : Prop :=
  (t.credentialsOf owner).find? (·.answers spec.issuer spec.subject) =
      (s.credentialsOf owner).find? (·.answers spec.issuer spec.subject) ∧
    (t.credentialsOf owner).any (·.name = spec.name) =
      (s.credentialsOf owner).any (·.name = spec.name)

end Store

variable (names : Naming)

def plannedCredential (displayName : String) (owner : ObjectId) (s : Store)
    (spec : CredentialSpec) : Change :=
  match (s.credentialsOf owner).find? (·.answers spec.issuer spec.subject) with
  | some c => .credentialUnchanged displayName c.name c.id
  | none => addedChange displayName spec none

theorem run_planCredentials (displayName : String) (app : Application) (s : Store)
    (h : s.hasApplication app.id = true) (specs : List CredentialSpec) :
    (planCredentials displayName app specs).run.run (behaviour names) s =
      (.ok (), specs.map (plannedCredential displayName app.id s), s) := by
  induction specs with
  | nil => rfl
  | cons spec rest ih =>
    unfold planCredentials
    rw [run_bind_ok _ _ (run_lookup_credential names app.id spec.issuer spec.subject s h)]
    simp only [List.map_cons, plannedCredential]
    cases (s.credentialsOf app.id).find? (·.answers spec.issuer spec.subject) with
    | some c =>
      simp only [run_bind_ok _ _ (run_record _ s _), ih]
      rfl
    | none =>
      simp only [run_bind_ok _ _ (run_record _ s _), ih]
      rfl

theorem agree_add {owner : ObjectId} {s t : Store} {spec other : CredentialSpec}
    (ht : t.hasApplication owner = true)
    (hfree : (t.credentialsOf owner).any (·.name = spec.name) = false)
    (hname : spec.name ≠ other.name)
    (hpair : (spec.issuer, spec.subject) ≠ (other.issuer, other.subject))
    (h : Agree owner s t other) :
    Agree owner s (t.addCredential names owner spec).2 other := by
  have hn : (t.credential names owner spec).answers other.issuer other.subject = false := by
    simpa [credential, Credential.answers] using hpair
  obtain ⟨hf, ha⟩ := h
  constructor
  · rw [credentialsOf_add names owner spec ht hfree, List.find?_append, hf]
    simp [hn]
  · rw [credentialsOf_add names owner spec ht hfree, List.any_append, ha]
    simpa [credential] using fun he => absurd he hname

theorem ensureCredential_planned (displayName : String) {app : Application} {s t : Store}
    {spec : CredentialSpec} (ht : t.hasApplication app.id = true) (h : Agree app.id s t spec)
    (hfree : ¬ s.Taken app.id spec) :
    ∃ e t', (ensureCredential app spec).run.run (behaviour names) t = (.ok e, [], t') ∧
      (credentialChange displayName spec e).planned =
        plannedCredential displayName app.id s spec ∧
      t'.hasApplication app.id = true ∧
      ∀ other : CredentialSpec, spec.name ≠ other.name →
        (spec.issuer, spec.subject) ≠ (other.issuer, other.subject) →
        Agree app.id s t other → Agree app.id s t' other := by
  have hens := run_ensureCredential names app spec t ht
  rw [h.1, h.2] at hens
  unfold plannedCredential
  cases hc : (s.credentialsOf app.id).find? (·.answers spec.issuer spec.subject) with
  | some c =>
    rw [hc] at hens
    exact ⟨.existing c, t, hens, rfl, ht, fun _ _ _ ho => ho⟩
  | none =>
    have hn : (s.credentialsOf app.id).any (·.name = spec.name) = false := by
      by_contra hn
      exact hfree ⟨hc, by simpa using hn⟩
    rw [hc, hn] at hens
    exact ⟨_, _, hens, rfl, by simpa using ht, fun other hname hpair ho =>
      agree_add names ht (h.2.trans hn) hname hpair ho⟩

/-- Declared credentials that no name stands in the way of are all ensured, with the changes that
were planned; the rest then meets a store that looks the same to it as before. -/
theorem run_provisionCredentials (displayName : String) (app : Application) (s : Store)
    (free rest : List CredentialSpec) (t : Store) (ht : t.hasApplication app.id = true)
    (hnames : ((free ++ rest).map (·.name)).Nodup)
    (hpairs : ((free ++ rest).map fun c => (c.issuer, c.subject)).Nodup)
    (hagree : ∀ spec ∈ free ++ rest, Agree app.id s t spec)
    (hfree : ∀ spec ∈ free, ¬ s.Taken app.id spec) :
    ∃ changes t', changes.map Change.planned = free.map (plannedCredential displayName app.id s) ∧
      t'.hasApplication app.id = true ∧ (∀ spec ∈ rest, Agree app.id s t' spec) ∧
      (provisionCredentials displayName app (free ++ rest)).run.run (behaviour names) t =
        let (r, more, u) :=
          (provisionCredentials displayName app rest).run.run (behaviour names) t'
        (r, changes ++ more, u) := by
  induction free generalizing t with
  | nil => exact ⟨[], t, rfl, ht, hagree, rfl⟩
  | cons spec free ih =>
    simp only [List.cons_append, List.map_cons, List.nodup_cons, List.mem_map,
      not_exists, not_and] at hnames hpairs
    obtain ⟨e, t₁, hens, hchange, ht₁, hkeep⟩ := ensureCredential_planned names displayName ht
      (hagree spec (by simp)) (hfree spec (by simp))
    have hothers : ∀ other ∈ free ++ rest, Agree app.id s t₁ other := fun other ho =>
      hkeep other (fun he => hnames.1 other ho he.symm) (fun he => hpairs.1 other ho he.symm)
        (hagree other (List.mem_cons_of_mem _ ho))
    obtain ⟨changes, t', hmap, ht', hrest, hrun⟩ :=
      ih t₁ ht₁ hnames.2 hpairs.2 hothers fun o ho => hfree o (by simp [ho])
    refine ⟨credentialChange displayName spec e :: changes, t', by simp [hmap, hchange], ht', hrest,
      ?_⟩
    rw [List.cons_append, provisionCredentials, run_bind_ok _ _ hens,
      run_bind_ok _ _ (run_record _ t₁ _), hrun]
    rfl

theorem run_provisionCredentials_taken (displayName : String) {app : Application} {s t : Store}
    {spec : CredentialSpec} (rest : List CredentialSpec) (ht : t.hasApplication app.id = true)
    (h : Agree app.id s t spec) (htaken : s.Taken app.id spec) :
    (provisionCredentials displayName app (spec :: rest)).run.run (behaviour names) t =
      (.error (.directory (credentialExists spec.name)), [], t) := by
  have hens := run_ensureCredential names app spec t ht
  rw [h.1, htaken.1, h.2, htaken.2] at hens
  rw [provisionCredentials, run_bind_error _ _ hens]

/-- A plan is carried out up to the first declared credential that is blocked, and there the
directory rejects what would be added. -/
structure CarriedOut (blocked : CredentialSpec → Prop) (specs : List CredentialSpec)
    (plan : List Change) (r : Except ReconcileError Unit × List Change × Store) : Prop where
  clear : (∀ spec ∈ specs, ¬ blocked spec) → r.1 = .ok () ∧ r.2.1.map Change.planned = plan
  rejected : ∀ free spec rest, specs = free ++ spec :: rest → (∀ c ∈ free, ¬ blocked c) →
    blocked spec → r.1 = .error (.directory (credentialExists spec.name)) ∧
      r.2.1.map Change.planned = plan.take (free.length + 2)

theorem carriedOut_of_ensured {identity : WorkloadIdentity} {app : Ensured Application}
    {principal : Ensured ServicePrincipal} {s s₁ s₂ ref : Store}
    (hnames : (identity.credentials.map (·.name)).Nodup)
    (hpairs : (identity.credentials.map fun c => (c.issuer, c.subject)).Nodup)
    (happ : (ensureApplication identity.displayName).run.run (behaviour names) s =
      (.ok app, [], s₁))
    (hprincipal : (ensureServicePrincipal app.get identity.tags).run.run (behaviour names) s₁ =
      (.ok principal, [], s₂))
    (ht : s₂.hasApplication app.get.id = true) (hagree : ∀ spec, Agree app.get.id ref s₂ spec) :
    CarriedOut (ref.Taken app.get.id) identity.credentials
      ((applicationChange identity.displayName app).planned ::
        (principalChange identity.displayName principal).planned ::
          identity.credentials.map (plannedCredential identity.displayName app.get.id ref))
      ((provision identity).run.run (behaviour names) s) := by
  rw [run_provision happ hprincipal]
  constructor
  · intro hclear
    obtain ⟨changes, t', hmap, -, -, hcreds⟩ := run_provisionCredentials names
      identity.displayName app.get ref identity.credentials [] s₂ ht (by simpa using hnames)
      (by simpa using hpairs) (fun spec _ => hagree spec) hclear
    rw [List.append_nil] at hcreds
    rw [hcreds]
    refine ⟨rfl, ?_⟩
    change Change.planned _ :: Change.planned _ :: (changes ++ []).map Change.planned = _
    rw [List.append_nil, hmap]
  · intro free spec rest hspecs hfree hblocked
    rw [hspecs] at hnames hpairs
    obtain ⟨changes, t', hmap, ht', hrest, hcreds⟩ := run_provisionCredentials names
      identity.displayName app.get ref free (spec :: rest) s₂ ht hnames hpairs
      (fun spec _ => hagree spec) hfree
    rw [run_provisionCredentials_taken names _ rest ht' (hrest spec (by simp)) hblocked] at hcreds
    rw [hspecs, hcreds]
    refine ⟨rfl, ?_⟩
    change Change.planned _ :: Change.planned _ :: (changes ++ []).map Change.planned = _
    rw [List.append_nil, hmap, List.map_append, List.take_succ_cons, List.take_succ_cons,
      List.take_left' (List.length_map _)]

theorem run_forM_record (planned : CredentialSpec → Change) (specs : List CredentialSpec)
    (s : Store) :
    (specs.forM fun spec => record (planned spec) : Attempt Unit).run.run (behaviour names) s =
      (.ok (), specs.map planned, s) := by
  induction specs with
  | nil => rfl
  | cons spec rest ih =>
    rw [List.forM, run_bind_ok _ _ (run_record _ s _), ih]
    rfl

theorem run_planProvision_absent (identity : WorkloadIdentity) (s : Store)
    (h : s.applications.find? (·.displayName = identity.displayName) = none) :
    (planProvision identity).run.run (behaviour names) s =
      (.ok (), .applicationCreated identity.displayName none ::
        .principalCreated identity.displayName none ::
          identity.credentials.map (addedChange identity.displayName · none), s) := by
  have hall : (planAll identity).run.run (behaviour names) s =
      (.ok (), .applicationCreated identity.displayName none ::
        .principalCreated identity.displayName none ::
          identity.credentials.map (addedChange identity.displayName · none), s) := by
    unfold planAll
    simp only [run_bind_ok _ _ (run_record _ s _), run_forM_record]
    rfl
  have hl := run_lookup_application names identity.displayName s
  rw [h] at hl
  unfold planProvision
  rw [run_bind_ok _ _ hl, hall]
  rfl

theorem run_planProvision_mismatch (identity : WorkloadIdentity) {s : Store} {app : Application}
    {principal : ServicePrincipal}
    (ha : s.applications.find? (·.displayName = identity.displayName) = some app)
    (hp : s.principals.find? (·.displayName = some identity.displayName) = some principal)
    (hne : principal.appId ≠ app.appId) :
    (planProvision identity).run.run (behaviour names) s =
      (.error (.appIdMismatch identity.displayName app.appId principal.appId),
        [.applicationUnchanged identity.displayName app.id], s) := by
  have hl := run_lookup_application names identity.displayName s
  have hlp := run_lookup_principal names identity.displayName s
  rw [ha] at hl
  rw [hp] at hlp
  unfold planProvision
  rw [run_bind_ok _ _ hl]
  simp only [run_bind_ok _ _ (run_record _ s _), run_bind_ok _ _ hlp, if_neg hne]
  rfl

def plannedPrincipal (displayName : String) : Option ServicePrincipal → Change
  | some principal => .principalUnchanged displayName principal.id
  | none => .principalCreated displayName none

theorem run_planProvision_present (identity : WorkloadIdentity) {s : Store} {app : Application}
    (ha : s.applications.find? (·.displayName = identity.displayName) = some app)
    (hp : ∀ principal ∈ s.principals.find? (·.displayName = some identity.displayName),
      principal.appId = app.appId) :
    (planProvision identity).run.run (behaviour names) s =
      (.ok (), .applicationUnchanged identity.displayName app.id ::
        plannedPrincipal identity.displayName
          (s.principals.find? (·.displayName = some identity.displayName)) ::
            identity.credentials.map (plannedCredential identity.displayName app.id s), s) := by
  have hl := run_lookup_application names identity.displayName s
  have hlp := run_lookup_principal names identity.displayName s
  have happ : s.hasApplication app.id = true :=
    hasApplication_of_mem (List.mem_of_find?_eq_some ha)
  have hcreds := run_planCredentials names identity.displayName app s happ identity.credentials
  rw [ha] at hl
  unfold planProvision
  rw [run_bind_ok _ _ hl]
  cases hf : s.principals.find? (·.displayName = some identity.displayName) with
  | some principal =>
    rw [hf] at hlp
    simp only [run_bind_ok _ _ (run_record _ s _), run_bind_ok _ _ hlp, if_pos (hp _ hf), hcreds]
    rfl
  | none =>
    rw [hf] at hlp
    simp only [run_bind_ok _ _ (run_record _ s _), run_bind_ok _ _ hlp, hcreds]
    rfl

namespace Store

def Blocked (s : Store) (displayName : String) (spec : CredentialSpec) : Prop :=
  ∃ app, s.applications.find? (·.displayName = displayName) = some app ∧ s.Taken app.id spec

theorem createServicePrincipal_ok {s : Store} {app : Application} (ha : app ∈ s.applications)
    (tags : List String) :
    ∃ principal t, s.createServicePrincipal names app.appId tags = (.ok principal, t) ∧
      t.applications = s.applications ∧ t.credentials = s.credentials := by
  unfold createServicePrincipal
  cases hf : s.applications.find? (·.appId = app.appId) with
  | none =>
    have hne := List.find?_eq_none.mp hf app ha
    simp at hne
  | some other => exact ⟨_, _, rfl, rfl, rfl⟩

end Store

theorem ensureServicePrincipal_planned {app : Application} {s : Store} (tags : List String)
    (ha : app ∈ s.applications)
    (hp : ∀ principal ∈ s.principals.find? (·.displayName = some app.displayName),
      principal.appId = app.appId) :
    ∃ e t, (ensureServicePrincipal app tags).run.run (behaviour names) s = (.ok e, [], t) ∧
      (principalChange app.displayName e).planned =
        plannedPrincipal app.displayName
          (s.principals.find? (·.displayName = some app.displayName)) ∧
      t.applications = s.applications ∧ t.credentials = s.credentials := by
  have hens := run_ensureServicePrincipal names app tags s
  cases hf : s.principals.find? (·.displayName = some app.displayName) with
  | some principal =>
    rw [hf] at hens
    simp only [if_pos (hp _ hf)] at hens
    exact ⟨_, _, hens, rfl, rfl, rfl⟩
  | none =>
    obtain ⟨principal, t, hcreate, happs, hcreds⟩ := createServicePrincipal_ok names ha tags
    rw [hf] at hens
    simp only [hcreate] at hens
    exact ⟨.created principal, t, hens, rfl, happs, hcreds⟩

theorem carriedOut_absent (hn : names.Distinct) {s : Store} (hs : s.Sound names)
    {identity : WorkloadIdentity} (hnames : (identity.credentials.map (·.name)).Nodup)
    (hpairs : (identity.credentials.map fun c => (c.issuer, c.subject)).Nodup)
    (ha : s.applications.find? (·.displayName = identity.displayName) = none)
    (hp : s.principals.find? (·.displayName = some identity.displayName) = none) :
    CarriedOut (s.Blocked identity.displayName) identity.credentials
      (((planProvision identity).run.run (behaviour names) s).2.1)
      ((provision identity).run.run (behaviour names) s) := by
  let app := names.application identity.displayName
    (s.minted.count (.application identity.displayName))
  let s₁ := (s.createApplication names identity.displayName).2
  have happ := run_ensureApplication names identity.displayName s
  rw [ha] at happ
  have hmem : app ∈ s₁.applications := List.mem_append_right _ (List.mem_singleton_self _)
  have hpr : s₁.principals.find? (·.displayName = some app.displayName) = none := hp
  obtain ⟨e, s₂, hens, hchange, happs, hcreds⟩ := ensureServicePrincipal_planned names
    identity.tags hmem (by rw [hpr]; exact fun _ h => absurd h (by simp))
  rw [hpr] at hchange
  have hnone : s₁.credentialsOf app.id = [] := hs.credentialsOf_stray (hs.fresh hn _)
  have ht : s₂.hasApplication app.id = true :=
    hasApplication_of_mem (happs ▸ hmem)
  have hagree : ∀ spec, Agree app.id s₁ s₂ spec := fun spec => by
    simp only [Agree, credentialsOf, hcreds, and_self]
  have h := carriedOut_of_ensured names hnames hpairs happ hens ht hagree
  have htaken : s₁.Taken app.id = s.Blocked identity.displayName := by
    funext spec
    simp [Taken, Blocked, hnone, ha]
  have hplan : plannedCredential identity.displayName app.id s₁ =
      (addedChange identity.displayName · none) := by
    funext spec
    simp only [plannedCredential, hnone, List.find?_nil]
  rw [run_planProvision_absent names identity s ha]
  change CarriedOut (s₁.Taken app.id) _
    (_ :: (principalChange app.displayName e).planned :: _) _ at h
  rw [htaken, hchange] at h
  change CarriedOut _ _ (_ :: _ :: List.map (plannedCredential identity.displayName app.id s₁) _) _
    at h
  rw [hplan] at h
  exact h

theorem carriedOut_present {s : Store} {identity : WorkloadIdentity} {app : Application}
    (hnames : (identity.credentials.map (·.name)).Nodup)
    (hpairs : (identity.credentials.map fun c => (c.issuer, c.subject)).Nodup)
    (ha : s.applications.find? (·.displayName = identity.displayName) = some app)
    (hp : ∀ principal ∈ s.principals.find? (·.displayName = some identity.displayName),
      principal.appId = app.appId) :
    CarriedOut (s.Blocked identity.displayName) identity.credentials
      (((planProvision identity).run.run (behaviour names) s).2.1)
      ((provision identity).run.run (behaviour names) s) := by
  have happ := run_ensureApplication names identity.displayName s
  rw [ha] at happ
  have hmem : app ∈ s.applications := List.mem_of_find?_eq_some ha
  have hname : app.displayName = identity.displayName := by simpa using List.find?_some ha
  rw [← hname] at hp
  obtain ⟨e, s₂, hens, hchange, happs, hcreds⟩ :=
    ensureServicePrincipal_planned names identity.tags hmem hp
  have ht : s₂.hasApplication app.id = true :=
    hasApplication_of_mem (happs ▸ hmem)
  have hagree : ∀ spec, Agree app.id s s₂ spec := fun spec => by
    simp only [Agree, credentialsOf, hcreds, and_self]
  have h := carriedOut_of_ensured names hnames hpairs happ hens ht hagree
  have htaken : s.Taken app.id = s.Blocked identity.displayName := by
    funext spec
    simp [Blocked, ha]
  rw [hname] at hp hchange
  rw [run_planProvision_present names identity ha hp]
  change CarriedOut (s.Taken app.id) _ _ _ at h
  rw [htaken, hchange] at h
  exact h

theorem run_provision_mismatch (identity : WorkloadIdentity) {s : Store} {app : Application}
    {principal : ServicePrincipal}
    (ha : s.applications.find? (·.displayName = identity.displayName) = some app)
    (hp : s.principals.find? (·.displayName = some identity.displayName) = some principal)
    (hne : principal.appId ≠ app.appId) :
    (provision identity).run.run (behaviour names) s =
      (.error (.appIdMismatch identity.displayName app.appId principal.appId),
        [.applicationUnchanged identity.displayName app.id], s) := by
  have happ := run_ensureApplication names identity.displayName s
  have hname : app.displayName = identity.displayName := by simpa using List.find?_some ha
  have hens := run_ensureServicePrincipal names app identity.tags s
  rw [ha] at happ
  rw [hname, hp] at hens
  simp only [if_neg hne] at hens
  change (ensureServicePrincipal (Ensured.existing app).get identity.tags).run.run _ _ = _ at hens
  unfold provision
  simp only [run_bind_ok _ _ happ, run_bind_ok _ _ (run_record _ s _)]
  rw [run_bind_error _ _ hens]
  rfl

/-- A plan changes nothing. If it fails, so does the run it rehearses, with the same error and the
same changes; if not, it is carried out up to the first declared credential whose name another one has, unless a
principal of the name was left without its application. -/
theorem provision_as_planned (hn : names.Distinct) {s : Store} (hs : s.Reachable names)
    (identity : WorkloadIdentity) (hnames : (identity.credentials.map (·.name)).Nodup)
    (hpairs : (identity.credentials.map fun c => (c.issuer, c.subject)).Nodup) :
    let plan := (planProvision identity).run.run (behaviour names) s
    let real := (provision identity).run.run (behaviour names) s
    plan.2.2 = s ∧
    (∀ e, plan.1 = .error e → real.1 = .error e ∧ real.2.1 = plan.2.1) ∧
    (plan.1 = .ok () →
      (s.applications.find? (·.displayName = identity.displayName) = none →
        s.principals.find? (·.displayName = some identity.displayName) = none) →
      CarriedOut (s.Blocked identity.displayName) identity.credentials plan.2.1 real) := by
  cases ha : s.applications.find? (·.displayName = identity.displayName) with
  | none =>
    have hplan := run_planProvision_absent names identity s ha
    refine ⟨by rw [hplan], fun e he => ?_, fun _ hp => ?_⟩
    · rw [hplan] at he
      cases he
    · exact carriedOut_absent names hn hs.sound hnames hpairs ha (hp rfl)
  | some app =>
    by_cases hp : ∀ principal ∈ s.principals.find? (·.displayName = some identity.displayName),
        principal.appId = app.appId
    · have hplan := run_planProvision_present names identity ha hp
      refine ⟨by rw [hplan], fun e he => ?_, fun _ _ => ?_⟩
      · rw [hplan] at he
        cases he
      · exact carriedOut_present names hnames hpairs ha hp
    · obtain ⟨principal, hf, hne⟩ : ∃ principal,
          s.principals.find? (·.displayName = some identity.displayName) = some principal ∧
            principal.appId ≠ app.appId := by
        simpa using hp
      have hplan := run_planProvision_mismatch names identity ha hf hne
      have hreal := run_provision_mismatch names identity ha hf hne
      refine ⟨by rw [hplan], fun e he => ?_, fun hok _ => ?_⟩
      · rw [hplan] at he ⊢
        rw [hreal]
        exact ⟨he, rfl⟩
      · rw [hplan] at hok
        cases hok

namespace DryRun

def taken (name : String) : Store :=
  let s := (behaviour .counted (.createApplication "payments") .empty).2
  (behaviour .counted (.addCredential (Naming.counted.applicationId "payments" 0)
    (.basic name "https://other.example" "repo:acme/payments")) s).2

theorem taken_reachable (name : String) : (taken name).Reachable .counted :=
  .call (.call .empty _) _

def main : CredentialSpec := .basic "gh-main" "https://oidc.example" "repo:acme/payments"

def tags : CredentialSpec := .basic "gh-tags" "https://oidc.example" "repo:acme/payments:tags"

def identity (credentials : List CredentialSpec) : WorkloadIdentity :=
  ⟨"payments", ["tether"], credentials⟩

theorem identity_valid : (identity [main]).violation? = none := by decide +kernel

theorem blocked_tags : (taken "gh-tags").Blocked "payments" tags :=
  ⟨Naming.counted.application "payments" 0, rfl, rfl, rfl⟩

theorem not_blocked_main : ¬ (taken "gh-tags").Blocked "payments" main := by
  rintro ⟨app, ha, -, hn⟩
  obtain rfl : Naming.counted.application "payments" 0 = app := Option.some.inj ha
  cases hn

end DryRun

/-- The first declared credential is added as planned, and the second one is rejected. -/
theorem provision_as_planned_taken :
    let identity := DryRun.identity [DryRun.main, DryRun.tags]
    let plan := (planProvision identity).run.run (behaviour .counted) (DryRun.taken "gh-tags")
    let real := (provision identity).run.run (behaviour .counted) (DryRun.taken "gh-tags")
    Naming.counted.Distinct ∧ (DryRun.taken "gh-tags").Reachable .counted ∧
    (identity.credentials.map (·.name)).Nodup ∧
    (identity.credentials.map fun c => (c.issuer, c.subject)).Nodup ∧
    plan.1 = .ok () ∧ real.1 = .error (.directory (credentialExists "gh-tags")) ∧
    real.2.1.map Change.planned = plan.2.1.take 3 := by
  have hnames : ((DryRun.identity [DryRun.main, DryRun.tags]).credentials.map (·.name)).Nodup := by
    decide
  have hpairs : ((DryRun.identity [DryRun.main, DryRun.tags]).credentials.map
      fun c => (c.issuer, c.subject)).Nodup := by decide
  have hcarried := (provision_as_planned .counted Naming.counted_distinct
    (DryRun.taken_reachable "gh-tags") _ hnames hpairs).2.2 rfl (fun h => by cases h)
  have hrejected := hcarried.rejected [DryRun.main] DryRun.tags [] rfl
    (fun c hc => List.mem_singleton.mp hc ▸ DryRun.not_blocked_main) DryRun.blocked_tags
  exact ⟨Naming.counted_distinct, DryRun.taken_reachable _, hnames, hpairs, rfl, hrejected⟩

/-- A plan that succeeds for a sound declaration and is not carried out: the directory keeps the
names of credentials apart, and looking one up goes by issuer and subject. -/
theorem provision_not_as_planned :
    let plan := (planProvision (DryRun.identity [DryRun.main])).run.run (behaviour .counted)
      (DryRun.taken "gh-main")
    let real := (provision (DryRun.identity [DryRun.main])).run.run (behaviour .counted)
      (DryRun.taken "gh-main")
    Naming.counted.Distinct ∧ (DryRun.taken "gh-main").Reachable .counted ∧
    (DryRun.identity [DryRun.main]).violation? = none ∧
    ((DryRun.identity [DryRun.main]).credentials.map (·.name)).Nodup ∧
    ((DryRun.identity [DryRun.main]).credentials.map fun c => (c.issuer, c.subject)).Nodup ∧
    plan.1 = .ok () ∧ real.1 = .error (.directory (credentialExists "gh-main")) ∧
    real.2.1.map Change.planned ≠ plan.2.1 :=
  ⟨Naming.counted_distinct, DryRun.taken_reachable _, DryRun.identity_valid, by decide,
    by decide, rfl, rfl, ne_of_apply_ne List.length (by decide)⟩

end Federation
