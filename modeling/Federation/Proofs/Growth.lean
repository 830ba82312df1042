import Federation.Proofs.DryRun
import Federation.Proofs.Provenance

namespace Federation

open Attempt Store

def Ensured.fresh {α : Type} : Ensured α → List α
  | .existing _ => []
  | .created a => [a]

theorem Ensured.eq_of_fresh {α : Type} {e : Ensured α} {a : α} (h : a ∈ e.fresh) : a = e.get := by
  cases e with
  | existing => cases h
  | created b => exact List.mem_singleton.mp h

namespace Store

variable {names : Naming} {s t u : Store}

/-- The second store has, at the end of its lists, what the first one has not. -/
structure Adds (s : Store) (apps : List Application) (principals : List ServicePrincipal)
    (credentials : List (ObjectId × Credential)) (t : Store) : Prop where
  applications : t.applications = s.applications ++ apps
  principals : t.principals = s.principals ++ principals
  credentials : t.credentials = s.credentials ++ credentials

theorem Adds.refl (s : Store) : s.Adds [] [] [] s := by
  constructor <;> exact (List.append_nil _).symm

theorem Adds.trans {apps apps' : List Application} {principals principals' : List ServicePrincipal}
    {credentials credentials' : List (ObjectId × Credential)}
    (h : s.Adds apps principals credentials t) (h' : t.Adds apps' principals' credentials' u) :
    s.Adds (apps ++ apps') (principals ++ principals') (credentials ++ credentials') u := by
  constructor
  · rw [h'.applications, h.applications, List.append_assoc]
  · rw [h'.principals, h.principals, List.append_assoc]
  · rw [h'.credentials, h.credentials, List.append_assoc]

def Grown (s t : Store) : Prop :=
  ∃ apps principals credentials, s.Adds apps principals credentials t

theorem Adds.grown {apps : List Application} {principals : List ServicePrincipal}
    {credentials : List (ObjectId × Credential)} (h : s.Adds apps principals credentials t) :
    s.Grown t := ⟨apps, principals, credentials, h⟩

theorem Grown.refl (s : Store) : s.Grown s := (Adds.refl s).grown

theorem Grown.trans (h : s.Grown t) (h' : t.Grown u) : s.Grown u := by
  obtain ⟨_, _, _, h⟩ := h
  obtain ⟨_, _, _, h'⟩ := h'
  exact (h.trans h').grown

def Finds (s : Store) (owner : ObjectId) (spec : CredentialSpec) (c : Credential) : Prop :=
  (s.credentialsOf owner).find? (·.answers spec.issuer spec.subject) = some c

namespace Grown

theorem application (h : s.Grown t) {p : Application → Bool} {app : Application}
    (hf : s.applications.find? p = some app) : t.applications.find? p = some app := by
  obtain ⟨apps, principals, credentials, h⟩ := h
  rw [h.applications, List.find?_append, hf]
  rfl

theorem principal (h : s.Grown t) {p : ServicePrincipal → Bool} {principal : ServicePrincipal}
    (hf : s.principals.find? p = some principal) : t.principals.find? p = some principal := by
  obtain ⟨apps, principals, credentials, h⟩ := h
  rw [h.principals, List.find?_append, hf]
  rfl

theorem finds (h : s.Grown t) {owner : ObjectId} {spec : CredentialSpec} {c : Credential}
    (hf : s.Finds owner spec c) : t.Finds owner spec c := by
  obtain ⟨apps, principals, credentials, h⟩ := h
  unfold Finds credentialsOf at hf ⊢
  rw [h.credentials, List.filterMap_append, List.find?_append, hf]
  rfl

theorem mem (h : s.Grown t) {app : Application} (ha : app ∈ s.applications) :
    app ∈ t.applications := by
  obtain ⟨apps, principals, credentials, h⟩ := h
  rw [h.applications]
  exact List.mem_append_left _ ha

theorem hasApplication (h : s.Grown t) {id : ObjectId} (hs : s.hasApplication id = true) :
    t.hasApplication id = true := by
  obtain ⟨app, hm, rfl⟩ := (hasApplication_iff _).mp hs
  exact hasApplication_of_mem (h.mem hm)

end Grown

end Store

variable {names : Naming} {s : Store}

theorem ensureApplication_settles (names : Naming) (displayName : String) (s : Store) :
    ∃ e t, (ensureApplication displayName).run.run (behaviour names) s = (.ok e, [], t) ∧
      s.Adds e.fresh [] [] t ∧
      t.applications.find? (·.displayName = displayName) = some e.get := by
  have hrun := run_ensureApplication names displayName s
  cases hf : s.applications.find? (·.displayName = displayName) with
  | some app =>
    rw [hf] at hrun
    exact ⟨_, _, hrun, .refl s, hf⟩
  | none =>
    rw [hf] at hrun
    refine ⟨_, _, hrun, ⟨rfl, (List.append_nil _).symm, (List.append_nil _).symm⟩, ?_⟩
    simp only [createApplication, List.find?_append, hf]
    simp [Ensured.get, Naming.application]

theorem ensureApplication_again {displayName : String} {app : Application}
    (h : s.applications.find? (·.displayName = displayName) = some app) :
    (ensureApplication displayName).run.run (behaviour names) s = (.ok (.existing app), [], s) := by
  rw [run_ensureApplication, h]

/-- The service principal of a stored application is ensured, unless the first one of the name
belongs to another application. -/
theorem ensureServicePrincipal_settles (hn : names.Distinct) (hs : s.Sound names)
    {app : Application} (ha : app ∈ s.applications) (tags : List String) :
    (∃ principal, s.principals.find? (·.displayName = some app.displayName) = some principal ∧
      principal.appId ≠ app.appId ∧
      (ensureServicePrincipal app tags).run.run (behaviour names) s =
        (.error (.appIdMismatch app.displayName app.appId principal.appId), [], s)) ∨
    ∃ e t, (ensureServicePrincipal app tags).run.run (behaviour names) s = (.ok e, [], t) ∧
      s.Adds [] e.fresh [] t ∧
      t.principals.find? (·.displayName = some app.displayName) = some e.get ∧
      e.get.appId = app.appId ∧ ∀ p ∈ e.fresh, p.tags = tags := by
  have hrun := run_ensureServicePrincipal names app tags s
  cases hf : s.principals.find? (·.displayName = some app.displayName) with
  | some principal =>
    rw [hf] at hrun
    by_cases hid : principal.appId = app.appId
    · simp only [if_pos hid] at hrun
      exact .inr ⟨_, _, hrun, .refl s, hf, hid, List.forall_mem_nil _⟩
    · simp only [if_neg hid] at hrun
      exact .inl ⟨principal, rfl, hid, hrun⟩
  | none =>
    rw [hf] at hrun
    obtain ⟨found, hfound⟩ : ∃ found, s.applications.find? (·.appId = app.appId) = some found :=
      Option.isSome_iff_exists.mp (List.find?_isSome.mpr ⟨app, ha, by simp⟩)
    have hname : found.displayName = app.displayName := by
      obtain ⟨n, -, hmade⟩ := hs.made app ha
      refine hs.displayName_of_appId hn (List.mem_of_find?_eq_some hfound) (n := n) ?_
      have hid : names.appId app.displayName n = app.appId :=
        (congrArg Application.appId hmade).symm
      rw [hid]
      simpa using List.find?_some hfound
    simp only [createServicePrincipal, hfound] at hrun
    refine .inr ⟨_, _, hrun, ⟨(List.append_nil _).symm, rfl, (List.append_nil _).symm⟩, ?_, rfl,
      List.forall_mem_singleton.mpr rfl⟩
    simp only [List.find?_append, hf]
    simp [Ensured.get, hname]

theorem ensureServicePrincipal_again {app : Application} {principal : ServicePrincipal}
    (h : s.principals.find? (·.displayName = some app.displayName) = some principal)
    (hid : principal.appId = app.appId) (tags : List String) :
    (ensureServicePrincipal app tags).run.run (behaviour names) s =
      (.ok (.existing principal), [], s) := by
  rw [run_ensureServicePrincipal, h]
  simp only [if_pos hid]

theorem ensureCredential_settles (names : Naming) {app : Application} (spec : CredentialSpec)
    (h : s.hasApplication app.id = true) :
    (s.Taken app.id spec ∧
      (ensureCredential app spec).run.run (behaviour names) s =
        (.error (.directory (credentialExists spec.name)), [], s)) ∨
    ∃ e t, (ensureCredential app spec).run.run (behaviour names) s = (.ok e, [], t) ∧
      s.Adds [] [] (e.fresh.map (app.id, ·)) t ∧ t.Finds app.id spec e.get ∧
      ∀ c ∈ e.fresh, c = s.credential names app.id spec := by
  have hrun := run_ensureCredential names app spec s h
  cases hf : (s.credentialsOf app.id).find? (·.answers spec.issuer spec.subject) with
  | some c =>
    rw [hf] at hrun
    exact .inr ⟨_, _, hrun, .refl s, hf, List.forall_mem_nil _⟩
  | none =>
    rw [hf] at hrun
    cases htaken : (s.credentialsOf app.id).any (·.name = spec.name) with
    | true =>
      rw [htaken] at hrun
      exact .inl ⟨⟨hf, htaken⟩, hrun⟩
    | false =>
      rw [htaken] at hrun
      refine .inr ⟨_, _, hrun, ?_, ?_, List.forall_mem_singleton.mpr rfl⟩
      · rw [addCredential_eq names _ _ h, htaken]
        exact ⟨(List.append_nil _).symm, (List.append_nil _).symm, rfl⟩
      · unfold Finds
        rw [credentialsOf_add names _ _ h htaken, List.find?_append, hf]
        simp [credential_answers, Ensured.get]

theorem ensureCredential_again {app : Application} {spec : CredentialSpec} {c : Credential}
    (h : s.hasApplication app.id = true) (hc : s.Finds app.id spec c) :
    (ensureCredential app spec).run.run (behaviour names) s = (.ok (.existing c), [], s) := by
  rw [run_ensureCredential names app spec s h, hc]

end Federation
