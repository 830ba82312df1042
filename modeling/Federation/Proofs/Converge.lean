import Federation.Proofs.Account
import Federation.Proofs.Growth
import Federation.Proofs.Scope

namespace Federation

open Attempt Store

def idsOf (kind : Change.Kind) (changes : List Change) : List (Option ObjectId) :=
  (changes.filter (·.kind = kind)).map (·.id?)

/-- Looking an identity up finds the application, its service principal and a credential for each
declared one. -/
structure Store.Provisioned (s : Store) (identity : WorkloadIdentity) (app : Application)
    (principal : ServicePrincipal) (credentials : List Credential) : Prop where
  foundApplication : s.applications.find? (·.displayName = identity.displayName) = some app
  foundPrincipal : s.principals.find? (·.displayName = some identity.displayName) = some principal
  bound : principal.appId = app.appId
  foundCredentials : List.Forall₂ (s.Finds app.id) identity.credentials credentials

variable {names : Naming} {s t : Store}

def credentialChanges (displayName : String) (specs : List CredentialSpec)
    (es : List (Ensured Credential)) : List Change :=
  (specs.zip es).map fun (spec, e) => credentialChange displayName spec e

def provisionChanges (identity : WorkloadIdentity) (app : Ensured Application)
    (principal : Ensured ServicePrincipal) (es : List (Ensured Credential)) : List Change :=
  applicationChange identity.displayName app :: principalChange identity.displayName principal ::
    credentialChanges identity.displayName identity.credentials es

theorem provisionCredentials_settle {displayName : String} {app : Application}
    {specs : List CredentialSpec} {changes : List Change} (hs : s.hasApplication app.id = true)
    (h : (provisionCredentials displayName app specs).run.run (behaviour names) s =
      (.ok (), changes, t)) :
    ∃ es : List (Ensured Credential), changes = credentialChanges displayName specs es ∧
      s.Adds [] [] ((es.flatMap (·.fresh)).map (app.id, ·)) t ∧
      List.Forall₂ (t.Finds app.id) specs (es.map (·.get)) := by
  induction specs generalizing s changes with
  | nil =>
    cases h
    exact ⟨[], rfl, .refl _, .nil⟩
  | cons spec rest ih =>
    unfold provisionCredentials at h
    obtain ⟨-, hrun⟩ | ⟨e, u, hrun, hadds, hfinds, -⟩ := ensureCredential_settles names spec hs
    · rw [run_bind_error _ _ hrun] at h
      cases h
    · rw [run_bind_ok _ _ hrun, run_bind_ok _ _ (run_record _ u _)] at h
      cases hrest : (provisionCredentials displayName app rest).run.run (behaviour names) u with
      | mk r more =>
        obtain ⟨more, v⟩ := more
        rw [hrest] at h
        cases h
        obtain ⟨es, rfl, hadds', hall⟩ := ih (hadds.grown.hasApplication hs) hrest
        refine ⟨e :: es, rfl, ?_, .cons (hadds'.grown.finds hfinds) hall⟩
        rw [List.flatMap_cons, List.map_append]
        exact hadds.trans hadds'

theorem provisionCredentials_again {app : Application} (hs : s.hasApplication app.id = true)
    (displayName : String) {specs : List CredentialSpec} {credentials : List Credential}
    (h : List.Forall₂ (s.Finds app.id) specs credentials) :
    (provisionCredentials displayName app specs).run.run (behaviour names) s =
      (.ok (), credentialChanges displayName specs (credentials.map .existing), s) := by
  induction h with
  | nil => rfl
  | cons hc _ ih =>
    unfold provisionCredentials
    rw [run_bind_ok _ _ (ensureCredential_again hs hc), run_bind_ok _ _ (run_record _ s _), ih]
    rfl

/-- What provisioning that got through added and put on record, and what it left. -/
theorem provision_settles (hn : names.Distinct) (hs : s.Traced names)
    {identity : WorkloadIdentity} {changes : List Change}
    (h : (provision identity).run.run (behaviour names) s = (.ok (), changes, t)) :
    ∃ app principal es, changes = provisionChanges identity app principal es ∧
      s.Adds app.fresh principal.fresh ((es.flatMap (·.fresh)).map (app.get.id, ·)) t ∧
      t.Provisioned identity app.get principal.get (es.map (·.get)) := by
  obtain ⟨app, u, happ, hadds, hfind⟩ := ensureApplication_settles names identity.displayName s
  have hname : app.get.displayName = identity.displayName := by simpa using List.find?_some hfind
  have hmem : app.get ∈ u.applications := List.mem_of_find?_eq_some hfind
  have hu : u.Traced names := by
    have hrun := Routine.traced_run (ensureApplication identity.displayName).run hs
    rwa [happ] at hrun
  obtain ⟨principal, -, -, hrun⟩ | ⟨principal, v, hrun, hadds', hfind', hbound, -⟩ :=
    ensureServicePrincipal_settles hn hu.toSound hmem identity.tags
  · unfold provision at h
    rw [run_bind_ok _ _ happ, run_bind_ok _ _ (run_record _ u _), run_bind_error _ _ hrun] at h
    cases h
  · rw [run_provision happ hrun] at h
    cases hcreds : (provisionCredentials identity.displayName app.get
        identity.credentials).run.run (behaviour names) v with
    | mk r more =>
      obtain ⟨more, w⟩ := more
      rw [hcreds] at h
      cases h
      obtain ⟨es, rfl, hadds'', hall⟩ := provisionCredentials_settle
        (hadds'.grown.hasApplication (hasApplication_of_mem hmem)) hcreds
      have hall' := (hadds.trans hadds').trans hadds''
      simp only [List.append_nil, List.nil_append] at hall'
      rw [hname] at hfind'
      exact ⟨app, principal, es, rfl, hall',
        ⟨(hadds'.grown.trans hadds''.grown).application hfind, hadds''.grown.principal hfind',
          hbound, hall⟩⟩

theorem provision_again {identity : WorkloadIdentity} {app : Application}
    {principal : ServicePrincipal} {credentials : List Credential}
    (h : s.Provisioned identity app principal credentials) :
    (provision identity).run.run (behaviour names) s =
      (.ok (), provisionChanges identity (.existing app) (.existing principal)
        (credentials.map .existing), s) := by
  have hname : app.displayName = identity.displayName := by
    simpa using List.find?_some h.foundApplication
  have hprincipal := h.foundPrincipal
  rw [← hname] at hprincipal
  have hs : s.hasApplication app.id = true :=
    hasApplication_of_mem (List.mem_of_find?_eq_some h.foundApplication)
  have happ : (ensureApplication identity.displayName).run.run (behaviour names) s =
      (.ok (.existing app), [], s) := ensureApplication_again h.foundApplication
  have hprin : (ensureServicePrincipal app identity.tags).run.run (behaviour names) s =
      (.ok (.existing principal), [], s) :=
    ensureServicePrincipal_again hprincipal h.bound identity.tags
  rw [run_provision happ hprin]
  simp only [Ensured.get, provisionCredentials_again hs identity.displayName h.foundCredentials]
  rfl

theorem kind_credentialChanges {displayName : String} {specs : List CredentialSpec}
    {es : List (Ensured Credential)} {c : Change}
    (h : c ∈ credentialChanges displayName specs es) :
    c.kind = .credentialAdded ∨ c.kind = .credentialUnchanged := by
  obtain ⟨⟨spec, e⟩, -, rfl⟩ := List.mem_map.mp h
  cases e with
  | existing => exact .inr rfl
  | created => exact .inl rfl

theorem idsOf_credentialChanges_other {displayName : String} {specs : List CredentialSpec}
    {es : List (Ensured Credential)} (kind : Change.Kind) (hadded : kind ≠ .credentialAdded)
    (hunchanged : kind ≠ .credentialUnchanged) :
    idsOf kind (credentialChanges displayName specs es) = [] := by
  refine List.map_eq_nil_iff.mpr (List.filter_eq_nil_iff.mpr fun c hc he => ?_)
  rw [decide_eq_true_eq] at he
  obtain hkind | hkind := kind_credentialChanges hc
  · exact hadded (he.symm.trans hkind)
  · exact hunchanged (he.symm.trans hkind)

theorem idsOf_cons (kind : Change.Kind) (c : Change) (changes : List Change) :
    idsOf kind (c :: changes) = if c.kind = kind then c.id? :: idsOf kind changes
      else idsOf kind changes := by
  unfold idsOf
  by_cases h : c.kind = kind
  · simp [h]
  · simp [h]

theorem idsOf_credentialChanges {displayName : String} {specs : List CredentialSpec}
    {es : List (Ensured Credential)} (h : specs.length = es.length) :
    idsOf .credentialAdded (credentialChanges displayName specs es) =
      (es.flatMap (·.fresh)).map (some ·.id) := by
  induction specs generalizing es with
  | nil =>
    obtain rfl := List.eq_nil_of_length_eq_zero h.symm
    rfl
  | cons spec rest ih =>
    cases es with
    | nil => cases h
    | cons e es =>
      have hrest := ih (Nat.succ.inj h)
      change idsOf _ (credentialChange displayName spec e ::
        credentialChanges displayName rest es) = _
      rw [idsOf_cons, hrest]
      cases e with
      | existing c => rfl
      | created c => rfl

section Record

variable {identity : WorkloadIdentity} {app : Ensured Application}
  {principal : Ensured ServicePrincipal} {es : List (Ensured Credential)}

theorem idsOf_applicationCreated :
    idsOf .applicationCreated (provisionChanges identity app principal es) =
      app.fresh.map (some ·.id) := by
  rw [provisionChanges, idsOf_cons, idsOf_cons,
    idsOf_credentialChanges_other .applicationCreated (by decide) (by decide)]
  cases app <;> cases principal <;> rfl

theorem idsOf_principalCreated :
    idsOf .principalCreated (provisionChanges identity app principal es) =
      principal.fresh.map (some ·.id) := by
  rw [provisionChanges, idsOf_cons, idsOf_cons,
    idsOf_credentialChanges_other .principalCreated (by decide) (by decide)]
  cases app <;> cases principal <;> rfl

theorem idsOf_credentialAdded (h : identity.credentials.length = es.length) :
    idsOf .credentialAdded (provisionChanges identity app principal es) =
      (es.flatMap (·.fresh)).map (some ·.id) := by
  rw [provisionChanges, idsOf_cons, idsOf_cons, idsOf_credentialChanges h]
  cases app <;> cases principal <;> rfl

theorem ids_provisionChanges (h : identity.credentials.length = es.length) :
    (provisionChanges identity app principal es).map (·.id?) =
      some app.get.id :: some principal.get.id :: (es.map (·.get)).map (some ·.id) := by
  have happ : (applicationChange identity.displayName app).id? = some app.get.id := by
    cases app <;> rfl
  have hprincipal :
      (principalChange identity.displayName principal).id? = some principal.get.id := by
    cases principal <;> rfl
  have hcreds : (credentialChanges identity.displayName identity.credentials es).map (·.id?) =
      (es.map (·.get)).map (some ·.id) := by
    have hsnd : (identity.credentials.zip es).map Prod.snd = es :=
      List.map_snd_zip (Nat.le_of_eq h.symm)
    rw [credentialChanges, List.map_map, List.map_map]
    conv_rhs => rw [← hsnd, List.map_map]
    refine List.map_congr_left fun ⟨spec, e⟩ _ => ?_
    cases e <;> rfl
  rw [provisionChanges, List.map_cons, List.map_cons, happ, hprincipal, hcreds]

theorem unchanged_provisionChanges {app : Application} {principal : ServicePrincipal}
    {credentials : List Credential} {c : Change}
    (h : c ∈ provisionChanges identity (.existing app) (.existing principal)
      (credentials.map .existing)) :
    c.kind ∈ [.applicationUnchanged, .principalUnchanged, .credentialUnchanged] := by
  obtain rfl | h := List.mem_cons.mp h
  · exact List.mem_cons_self
  obtain rfl | h := List.mem_cons.mp h
  · exact List.mem_cons_of_mem _ List.mem_cons_self
  obtain ⟨⟨spec, e⟩, hm, rfl⟩ := List.mem_map.mp h
  obtain ⟨credential, -, rfl⟩ := List.mem_map.mp (List.of_mem_zip hm).2
  exact List.mem_cons_of_mem _ (List.mem_cons_of_mem _ List.mem_cons_self)

end Record

/-- If an identity was provisioned, lookups find all that it declares; nothing was taken away, and
what is new are the objects that were reported as created. Doing it once more changes nothing and
reports the same objects as unchanged. -/
theorem provision_converges (hn : names.Distinct) (hs : s.Reachable names)
    {identity : WorkloadIdentity} {changes : List Change}
    (h : (provision identity).run.run (behaviour names) s = (.ok (), changes, t)) :
    ∃ (app : Application) (principal : ServicePrincipal) (credentials : List Credential)
      (apps : List Application) (principals : List ServicePrincipal) (added : List Credential),
      t.Provisioned identity app principal credentials ∧
      s.Adds apps principals (added.map (app.id, ·)) t ∧
      (apps.map (some ·.id) = idsOf .applicationCreated changes ∧
        principals.map (some ·.id) = idsOf .principalCreated changes ∧
        added.map (some ·.id) = idsOf .credentialAdded changes) ∧
      ∃ again, (provision identity).run.run (behaviour names) t = (.ok (), again, t) ∧
        again.map (·.id?) = changes.map (·.id?) ∧
        ∀ c ∈ again,
          c.kind ∈ [.applicationUnchanged, .principalUnchanged, .credentialUnchanged] := by
  obtain ⟨app, principal, es, rfl, hadds, hfound⟩ := provision_settles hn hs.traced h
  have hlength : identity.credentials.length = es.length := by
    rw [hfound.foundCredentials.length_eq, List.length_map]
  refine ⟨app.get, principal.get, _, _, _, _, hfound, hadds, ⟨idsOf_applicationCreated.symm,
    idsOf_principalCreated.symm, (idsOf_credentialAdded hlength).symm⟩, _, provision_again hfound,
    ?_, fun c => unchanged_provisionChanges⟩
  rw [ids_provisionChanges hlength, ids_provisionChanges (by simpa using hlength)]
  simp [Ensured.get]

/-- The application is there with another credential: the service principal and the declared
credential are new, and the next run finds all three. -/
theorem provision_converges_taken :
    let identity := DryRun.identity [DryRun.main]
    let run := (provision identity).run.run (behaviour .counted)
    ∃ changes t again, Naming.counted.Distinct ∧ (DryRun.taken "gh-tags").Reachable .counted ∧
      run (DryRun.taken "gh-tags") = (.ok (), changes, t) ∧
      changes.map (·.kind) = [.applicationUnchanged, .principalCreated, .credentialAdded] ∧
      run t = (.ok (), again, t) ∧ again.map (·.id?) = changes.map (·.id?) := by
  have hrun : (provision (DryRun.identity [DryRun.main])).run.run (behaviour .counted)
      (DryRun.taken "gh-tags") = (.ok (), _, _) := rfl
  obtain ⟨-, -, -, -, -, -, -, -, -, again, hagain, hids, -⟩ :=
    provision_converges Naming.counted_distinct (DryRun.taken_reachable "gh-tags") hrun
  exact ⟨_, _, again, Naming.counted_distinct, DryRun.taken_reachable _, rfl, rfl, hagain, hids⟩

end Federation
