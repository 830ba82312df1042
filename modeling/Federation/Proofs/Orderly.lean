import Federation.Proofs.Halt
import Federation.Proofs.Resume

namespace Federation

open Attempt Store

namespace Store

/-- Names tell applications apart; every service principal has an application, of its name, and no
two have the same; names tell the credentials of an application apart, and so do issuer and subject
together. -/
structure Orderly (s : Store) : Prop where
  applications : (s.applications.map (·.displayName)).Nodup
  bound : ∀ p ∈ s.principals, ∃ app ∈ s.applications,
    app.appId = p.appId ∧ p.displayName = some app.displayName
  principals : (s.principals.map (·.appId)).Nodup
  credentialNames : ∀ owner, ((s.credentialsOf owner).map (·.name)).Nodup
  credentialPairs : ∀ owner, ((s.credentialsOf owner).map fun c => (c.issuer, c.subject)).Nodup

structure Tidy (names : Naming) (s : Store) : Prop extends Sound names s, Orderly s

variable {names : Naming} {s t : Store} {app : Application}

theorem tidy_empty : Store.empty.Tidy names :=
  ⟨sound_empty, ⟨.nil, by simp [empty], .nil, fun _ => .nil, fun _ => .nil⟩⟩

/-- A service principal is that of an application exactly if it goes by its name. -/
theorem Tidy.appId_iff (h : s.Tidy names) (hn : names.Distinct) (ha : app ∈ s.applications)
    {p : ServicePrincipal} (hp : p ∈ s.principals) :
    p.appId = app.appId ↔ p.displayName = some app.displayName := by
  obtain ⟨other, hother, hid, hname⟩ := h.bound p hp
  obtain ⟨n, -, hmade⟩ := h.made app ha
  rw [hname, ← hid]
  constructor
  · intro he
    exact congrArg some
      (h.displayName_of_appId hn hother (he.trans (congrArg Application.appId hmade)))
  · intro he
    rw [List.inj_on_of_nodup_map h.applications hother ha (Option.some.inj he)]

theorem Tidy.createApplication (h : s.Tidy names) {displayName : String}
    (habsent : s.applications.find? (·.displayName = displayName) = none) :
    (behaviour names (.createApplication displayName) s).2.Tidy names := by
  refine ⟨h.toSound.call _, ⟨?_, fun p hp => ?_, h.principals, h.credentialNames,
    h.credentialPairs⟩⟩
  · have hnew : displayName ∉ s.applications.map (·.displayName) := by
      simpa using List.find?_eq_none.mp habsent
    simp only [behaviour, Store.createApplication]
    rw [← List.concat_eq_append, List.map_concat]
    exact h.applications.concat hnew
  · obtain ⟨app, ha, hbound⟩ := h.bound p hp
    exact ⟨app, List.mem_append_left _ ha, hbound⟩

theorem Tidy.createServicePrincipal (h : s.Tidy names) (hn : names.Distinct)
    (ha : app ∈ s.applications)
    (habsent : s.principals.find? (·.displayName = some app.displayName) = none)
    (tags : List String) :
    (behaviour names (.createServicePrincipal app.appId tags) s).2.Tidy names := by
  refine ⟨h.toSound.call _, ?_⟩
  obtain ⟨found, hfound⟩ : ∃ found, s.applications.find? (·.appId = app.appId) = some found :=
    Option.isSome_iff_exists.mp (List.find?_isSome.mpr ⟨app, ha, by simp⟩)
  have hnew : app.appId ∉ s.principals.map (·.appId) := by
    intro hm
    obtain ⟨p, hp, hid⟩ := List.mem_map.mp hm
    exact List.find?_eq_none.mp habsent p hp (decide_eq_true ((h.appId_iff hn ha hp).mp hid))
  simp only [behaviour, Store.createServicePrincipal, hfound]
  refine ⟨h.applications, fun p hp => ?_, ?_, h.credentialNames, h.credentialPairs⟩
  · obtain hp | hp := List.mem_append.mp hp
    · exact h.bound p hp
    · rw [List.mem_singleton.mp hp]
      exact ⟨found, List.mem_of_find?_eq_some hfound, by simpa using List.find?_some hfound, rfl⟩
  · rw [← List.concat_eq_append, List.map_concat]
    exact h.principals.concat hnew

theorem nodup_credentialsOf_add {β : Type} {key : Credential → β} {owner : ObjectId}
    {c : Credential} (minted : List Minted)
    (h : ∀ other, ((s.credentialsOf other).map key).Nodup)
    (hnew : key c ∉ (s.credentialsOf owner).map key) (other : ObjectId) :
    ((({ s with credentials := s.credentials ++ [(owner, c)], minted } :
      Store).credentialsOf other).map key).Nodup := by
  rw [credentialsOf_append, List.map_append]
  by_cases he : owner = other
  · subst he
    simpa using (h owner).concat hnew
  · simpa [he] using h other

theorem Tidy.addCredential (h : s.Tidy names) {owner : ObjectId} {spec : CredentialSpec}
    (ho : s.hasApplication owner = true)
    (habsent : (s.credentialsOf owner).find? (·.answers spec.issuer spec.subject) = none) :
    (behaviour names (.addCredential owner spec) s).2.Tidy names := by
  refine ⟨h.toSound.call _, ?_⟩
  rw [behaviour, addCredential_eq names owner spec ho]
  cases htaken : (s.credentialsOf owner).any (·.name = spec.name) with
  | true => exact h.toOrderly
  | false =>
    have hname : spec.name ∉ (s.credentialsOf owner).map (·.name) := by simpa using htaken
    have hpair : (spec.issuer, spec.subject) ∉
        (s.credentialsOf owner).map fun c => (c.issuer, c.subject) := by
      intro hm
      obtain ⟨c, hc, he⟩ := List.mem_map.mp hm
      obtain ⟨hissuer, hsubject⟩ := Prod.mk.inj he
      exact List.find?_eq_none.mp habsent c hc (by simp [Credential.answers, hissuer, hsubject])
    exact ⟨h.applications, h.bound, h.principals,
      nodup_credentialsOf_add _ h.credentialNames hname,
      nodup_credentialsOf_add _ h.credentialPairs hpair⟩

theorem Orderly.of_sublist (h : s.Orderly) (happs : t.applications = s.applications)
    (hprincipals : t.principals.Sublist s.principals)
    (hcredentials : t.credentials.Sublist s.credentials) : t.Orderly where
  applications := happs ▸ h.applications
  bound p hp := happs ▸ h.bound p (hprincipals.mem hp)
  principals := h.principals.sublist (hprincipals.map _)
  credentialNames owner :=
    (h.credentialNames owner).sublist ((hcredentials.filterMap _).map _)
  credentialPairs owner :=
    (h.credentialPairs owner).sublist ((hcredentials.filterMap _).map _)

theorem Tidy.deleteCredential (h : s.Tidy names) (owner id : ObjectId) :
    (behaviour names (.deleteCredential owner id) s).2.Tidy names := by
  refine ⟨h.toSound.call _, ?_⟩
  rw [behaviour, deleteCredential_snd]
  exact h.of_sublist rfl (.refl _) List.filter_sublist

theorem Tidy.deleteServicePrincipal (h : s.Tidy names) (id : ObjectId) :
    (behaviour names (.deleteServicePrincipal id) s).2.Tidy names := by
  refine ⟨h.toSound.call _, ?_⟩
  rw [behaviour, deleteServicePrincipal_snd]
  exact h.of_sublist rfl List.filter_sublist (.refl _)

theorem Tidy.deleteApplication (h : s.Tidy names) (hn : names.Distinct) (ha : app ∈ s.applications)
    (hgone : ∀ p ∈ s.principals, p.displayName ≠ some app.displayName) :
    (behaviour names (.deleteApplication app.id) s).2.Tidy names := by
  refine ⟨h.toSound.call _, ?_⟩
  obtain ⟨n, -, hmade⟩ := h.made app ha
  rw [behaviour, h.toSound.deleteApplication_snd]
  refine ⟨h.applications.sublist (List.filter_sublist.map _), fun p hp => ?_, h.principals,
    fun owner => ?_, fun owner => ?_⟩
  · obtain ⟨other, hother, hbound, hname⟩ := h.bound p hp
    refine ⟨other, List.mem_filter.mpr ⟨hother, decide_eq_true fun hid => ?_⟩, hbound, hname⟩
    rw [h.displayName_of_id hn hother (hid.trans (congrArg Application.id hmade))] at hname
    exact hgone p hp hname
  · exact (h.credentialNames owner).sublist ((List.filter_sublist.filterMap _).map _)
  · exact (h.credentialPairs owner).sublist ((List.filter_sublist.filterMap _).map _)

end Store

def ReconcileError.isMismatch : ReconcileError → Bool
  | .appIdMismatch .. => true
  | _ => false

namespace Routine

variable {names : Naming} {α β : Type} {I : Store → Prop}

/-- Run alone, the routine finds the store as wanted whenever it is to make a call, and comes to
what the condition allows. -/
def Holds (names : Naming) (I : Store → Prop) (post : α → Store → Prop) : Routine α → Store → Prop
  | .done a, s => post a s
  | .call c next, s =>
    I s ∧ (next (behaviour names c s).1).Holds names I post (behaviour names c s).2
  | .acquire _ next, s | .release _ next, s | .record _ next, s => next.Holds names I post s

theorem Holds.bind {mid : α → Store → Prop} {post : β → Store → Prop} {m : Routine α}
    {f : α → Routine β} {s : Store} (hm : m.Holds names I mid s)
    (hf : ∀ a t, mid a t → (f a).Holds names I post t) : (m.bind f).Holds names I post s := by
  induction m generalizing s with
  | done a => exact hf a s hm
  | call c next ih => exact ⟨hm.1, ih _ hm.2⟩
  | acquire _ next ih | release _ next ih | record _ next ih => exact ih hm

theorem Holds.run {post : α → Store → Prop} {m : Routine α} {s : Store}
    (hm : m.Holds names I post s) :
    post (m.run (behaviour names) s).1 (m.run (behaviour names) s).2.2 := by
  induction m generalizing s with
  | done a => exact hm
  | call c next ih => exact ih _ hm.2
  | acquire _ next ih | release _ next ih | record _ next ih => exact ih hm

theorem Holds.pending {post : α → Store → Prop} {m : Routine α} {s t : Store}
    (hm : m.Holds names I post s) (h : m.Pending names s t) : I t := by
  induction m generalizing s with
  | done a => cases h
  | call c next ih =>
    obtain rfl | h := h
    · exact hm.1
    · exact ih _ hm.2 h
  | acquire _ next ih | release _ next ih | record _ next ih => exact ih hm h

end Routine

namespace Attempt

variable {names : Naming} {α β : Type} {s t : Store} {Q : α → Store → Prop}

/-- What a tidy attempt comes to: a value as wanted, or an error other than that of a service
principal of another application; and the store is tidy. -/
structure Tidied (names : Naming) (Q : α → Store → Prop) (r : Except ReconcileError α) (t : Store) :
    Prop where
  tidy : t.Tidy names
  value : ∀ a, r = .ok a → Q a t
  bound : ∀ e, r = .error e → e.isMismatch = false

abbrev Tidies (names : Naming) (Q : α → Store → Prop) (m : Attempt α) (s : Store) : Prop :=
  m.run.Holds names (Tidy names) (Tidied names Q) s

theorem Tidied.ok {a : α} (ht : t.Tidy names) (h : Q a t) : Tidied names Q (.ok a) t :=
  ⟨ht, by rintro _ ⟨⟩; exact h, nofun⟩

theorem Tidied.error {e : ReconcileError} (ht : t.Tidy names) (h : e.isMismatch = false) :
    Tidied names Q (.error e) t :=
  ⟨ht, nofun, by rintro _ ⟨⟩; exact h⟩

theorem Tidies.pure {a : α} (hs : s.Tidy names) (h : Q a s) : Tidies names Q (pure a) s :=
  Tidied.ok hs h

theorem Tidies.andThen {R : β → Store → Prop} {m : Attempt β} {f : β → Attempt α}
    (hm : Tidies names R m s) (hf : ∀ b t, t.Tidy names → R b t → Tidies names Q (f b) t) :
    Tidies names Q (m >>= f) s := by
  refine Routine.Holds.bind hm fun r t hr => ?_
  cases r with
  | ok b => exact hf b t hr.tidy (hr.value b rfl)
  | error e => exact .error hr.tidy (hr.bound e rfl)

theorem Tidies.perform {c : Call} {Q : c.Answer → Store → Prop} (hs : s.Tidy names)
    (ht : (behaviour names c s).2.Tidy names)
    (hQ : ∀ a, (behaviour names c s).1 = .ok a → Q a (behaviour names c s).2) :
    Tidies names Q (perform c) s := by
  refine ⟨hs, ?_⟩
  cases hr : (behaviour names c s).1 with
  | ok a => exact .ok ht (hQ a hr)
  | error why => exact .error ht rfl

theorem Tidies.lookup {c : Call} {a : Option c.Answer} (hs : s.Tidy names)
    (hrun : (lookup c).run.run (behaviour names) s = (.ok a, [], s)) :
    Tidies names (fun b t => b = a ∧ s = t) (lookup c) s := by
  refine ⟨hs, ?_⟩
  rw [run_lookup] at hrun
  obtain ⟨hfound, -, hstore⟩ := Prod.mk.inj hrun |>.imp_right Prod.mk.inj
  change Tidied names _ (found _) _
  rw [hfound, hstore]
  exact .ok hs ⟨rfl, rfl⟩

theorem Tidies.recorded {change : Change} {f : Unit → Attempt α} (h : Tidies names Q (f ()) s) :
    Tidies names Q (record change >>= f) s := h

theorem tidies_record {change : Change} (hs : s.Tidy names) :
    Tidies names (fun _ _ => True) (record change) s := Tidied.ok hs trivial

theorem Tidies.holding {key : String} {body : Attempt α} (h : Tidies names Q body s) :
    Tidies names Q (holding key body) s :=
  Routine.Holds.bind (m := body.run) h fun _ _ hr => hr

end Attempt

section Attempts

variable {names : Naming} {s : Store} {app : Application}

theorem ensureApplication_tidies (hs : s.Tidy names) (displayName : String) :
    Tidies names (fun e t => e.get ∈ t.applications) (ensureApplication displayName) s := by
  refine .holding (.andThen (.lookup hs (run_lookup_application names displayName s)) ?_)
  rintro _ _ - ⟨rfl, rfl⟩
  cases hf : s.applications.find? (·.displayName = displayName) with
  | some app => exact .pure hs (List.mem_of_find?_eq_some hf)
  | none =>
    refine .andThen (R := fun app t => app ∈ t.applications)
      (.perform hs (hs.createApplication hf) ?_) fun _ _ ht hmem => .pure ht hmem
    rintro _ ⟨⟩
    exact List.mem_append_right _ List.mem_cons_self

theorem ensureServicePrincipal_tidies (hn : names.Distinct) (hs : s.Tidy names)
    (ha : app ∈ s.applications) (tags : List String) :
    Tidies names (fun _ t => app ∈ t.applications) (ensureServicePrincipal app tags) s := by
  refine .holding (.andThen (.lookup hs (run_lookup_principal names app.displayName s)) ?_)
  rintro _ _ - ⟨rfl, rfl⟩
  cases hf : s.principals.find? (·.displayName = some app.displayName) with
  | some principal =>
    have hbound : principal.appId = app.appId :=
      (hs.appId_iff hn ha (List.mem_of_find?_eq_some hf)).mpr (by simpa using List.find?_some hf)
    simp only [if_pos hbound]
    exact .pure hs ha
  | none =>
    refine .andThen (.perform hs (hs.createServicePrincipal hn ha hf tags) fun _ _ => ?_)
      fun _ _ ht hmem => .pure ht hmem
    simp only [behaviour, createServicePrincipal]
    split <;> exact ha

theorem ensureCredential_tidies (hs : s.Tidy names) (ha : app ∈ s.applications)
    (spec : CredentialSpec) :
    Tidies names (fun _ t => app ∈ t.applications) (ensureCredential app spec) s := by
  have ho : s.hasApplication app.id = true := hasApplication_of_mem ha
  refine .holding (.andThen (.lookup hs (run_lookup_credential names _ _ _ s ho)) ?_)
  rintro _ _ - ⟨rfl, rfl⟩
  cases hf : (s.credentialsOf app.id).find? (·.answers spec.issuer spec.subject) with
  | some c => exact .pure hs ha
  | none =>
    refine .andThen (.perform hs (hs.addCredential ho hf) fun _ _ => ?_) fun _ t ht hmem =>
      .andThen (.perform ht ht fun _ _ => hmem) fun _ _ hu hmem => .pure hu hmem
    rw [behaviour, addCredential_eq names _ _ ho]
    split <;> exact ha

theorem provisionCredentials_tidies (hs : s.Tidy names) (ha : app ∈ s.applications)
    (displayName : String) (specs : List CredentialSpec) :
    Tidies names (fun _ _ => True) (provisionCredentials displayName app specs) s := by
  induction specs generalizing s with
  | nil => exact .pure hs trivial
  | cons spec rest ih =>
    exact .andThen (ensureCredential_tidies hs ha spec) fun _ _ ht ha => .recorded (ih ht ha)

theorem provision_tidies (hn : names.Distinct) (hs : s.Tidy names) (identity : WorkloadIdentity) :
    Tidies names (fun _ _ => True) (provision identity) s := by
  refine .andThen (ensureApplication_tidies hs _) fun app t ht ha => .recorded ?_
  refine .andThen (ensureServicePrincipal_tidies hn ht ha _) fun _ u hu ha => .recorded ?_
  exact provisionCredentials_tidies hu ha _ _

theorem planCredentials_tidies (hs : s.Tidy names) (ha : app ∈ s.applications)
    (displayName : String) (specs : List CredentialSpec) :
    Tidies names (fun _ _ => True) (planCredentials displayName app specs) s := by
  induction specs with
  | nil => exact .pure hs trivial
  | cons spec rest ih =>
    refine .andThen (.lookup hs (run_lookup_credential names _ _ _ s (hasApplication_of_mem ha))) ?_
    rintro found _ - ⟨-, rfl⟩
    cases found with
    | some c => exact .recorded ih
    | none => exact .recorded ih

theorem planAll_tidies (hs : s.Tidy names) (identity : WorkloadIdentity) :
    Tidies names (fun _ _ => True) (planAll identity) s := by
  refine .recorded (.recorded ?_)
  induction identity.credentials with
  | nil => exact .pure hs trivial
  | cons spec rest ih => exact .recorded ih

theorem planProvision_tidies (hn : names.Distinct) (hs : s.Tidy names)
    (identity : WorkloadIdentity) :
    Tidies names (fun _ _ => True) (planProvision identity) s := by
  refine .andThen (.lookup hs (run_lookup_application names identity.displayName s)) ?_
  rintro _ _ - ⟨rfl, rfl⟩
  cases hf : s.applications.find? (·.displayName = identity.displayName) with
  | none => exact planAll_tidies hs identity
  | some app =>
    have ha : app ∈ s.applications := List.mem_of_find?_eq_some hf
    have hname : app.displayName = identity.displayName := by simpa using List.find?_some hf
    have hcredentials := planCredentials_tidies hs ha identity.displayName identity.credentials
    refine .recorded (.andThen (.lookup hs (run_lookup_principal names _ s)) ?_)
    rintro _ _ - ⟨rfl, rfl⟩
    cases hp : s.principals.find? (·.displayName = some identity.displayName) with
    | none => exact .recorded hcredentials
    | some principal =>
      have hbound : principal.appId = app.appId :=
        (hs.appId_iff hn ha (List.mem_of_find?_eq_some hp)).mpr
          (by simpa [hname] using List.find?_some hp)
      simp only [if_pos hbound]
      exact .recorded hcredentials

theorem deleting_tidies {dryRun : Bool} {c : Call} (hs : s.Tidy names)
    (ht : dryRun = false → (behaviour names c s).2.Tidy names) :
    Tidies names (fun _ t => (if dryRun then s else (behaviour names c s).2) = t)
      (deleting dryRun c) s := by
  cases dryRun with
  | true => exact .pure hs rfl
  | false => exact .andThen (.perform hs (ht rfl) fun _ _ => rfl) fun _ _ ht he => .pure ht he

theorem teardownCredentials_tidies (hs : s.Tidy names) (ha : app ∈ s.applications) (dryRun : Bool)
    (displayName : String) (specs : List CredentialSpec) :
    Tidies names (fun _ t => app ∈ t.applications)
      (teardownCredentials dryRun displayName app specs) s := by
  induction specs generalizing s with
  | nil => exact .pure hs ha
  | cons spec rest ih =>
    refine .andThen (.lookup hs (run_lookup_credential names _ _ _ s (hasApplication_of_mem ha))) ?_
    rintro found _ - ⟨-, rfl⟩
    cases found with
    | none => exact ih hs ha
    | some c =>
      refine .andThen (deleting_tidies hs fun _ => hs.deleteCredential app.id c.id) ?_
      rintro _ _ ht rfl
      refine .recorded (ih ht ?_)
      rw [behaviour, deleteCredential_snd]
      split <;> exact ha

theorem teardownPrincipal_tidies (hn : names.Distinct) (hs : s.Tidy names)
    (ha : app ∈ s.applications) (dryRun : Bool) :
    Tidies names (fun _ t => app ∈ t.applications ∧
        (dryRun = false → ∀ p ∈ t.principals, p.displayName ≠ some app.displayName))
      (teardownPrincipal dryRun app) s := by
  refine .andThen (.lookup hs (run_lookup_principal names app.displayName s)) ?_
  rintro _ _ - ⟨rfl, rfl⟩
  cases hf : s.principals.find? (·.displayName = some app.displayName) with
  | none => exact .pure hs ⟨ha, fun _ => by simpa using List.find?_eq_none.mp hf⟩
  | some principal =>
    have hmem : principal ∈ s.principals := List.mem_of_find?_eq_some hf
    have hbound : principal.appId = app.appId :=
      (hs.appId_iff hn ha hmem).mpr (by simpa using List.find?_some hf)
    simp only [if_pos hbound]
    refine .andThen (deleting_tidies hs fun _ => hs.deleteServicePrincipal principal.id) ?_
    rintro _ _ ht rfl
    rw [behaviour, deleteServicePrincipal_snd] at ht ⊢
    refine .pure ht ?_
    cases dryRun with
    | true => exact ⟨ha, by simp⟩
    | false =>
      refine ⟨ha, fun _ p hp hname => ?_⟩
      obtain ⟨hp, hne⟩ := List.mem_filter.mp hp
      have hsame : p = principal := List.inj_on_of_nodup_map hs.principals hp hmem
        (((hs.appId_iff hn ha hp).mpr hname).trans hbound.symm)
      simp [hsame] at hne

theorem teardown_tidies (hn : names.Distinct) (hs : s.Tidy names) (identity : WorkloadIdentity)
    (dryRun : Bool) :
    Tidies names (fun _ _ => True) (teardown identity dryRun) s := by
  refine .andThen (.lookup hs (run_lookup_application names identity.displayName s)) ?_
  rintro _ _ - ⟨rfl, rfl⟩
  cases hf : s.applications.find? (·.displayName = identity.displayName) with
  | none => exact tidies_record hs
  | some app =>
    refine .andThen (teardownCredentials_tidies hs (List.mem_of_find?_eq_some hf) _ _ _) ?_
    intro _ t ht ha
    refine .andThen (teardownPrincipal_tidies hn ht ha dryRun) fun _ u hu hgone => ?_
    exact .andThen (deleting_tidies hu fun hreal => hu.deleteApplication hn hgone.1 (hgone.2 hreal))
      fun _ _ hv _ => tidies_record hv

theorem Order.attempt_tidies (hn : names.Distinct) (hs : s.Tidy names) (o : Order)
    (identity : WorkloadIdentity) :
    Tidies names (fun _ _ => True) (o.attempt identity) s := by
  unfold Order.attempt
  cases o.action with
  | provision =>
    cases o.dryRun with
    | false => exact provision_tidies hn hs identity
    | true => exact planProvision_tidies hn hs identity
  | teardown => exact teardown_tidies hn hs identity o.dryRun

end Attempts

/-- The stores that runs lead to from the empty one, one after another: attempts at an identity, and
orders carried out. Nothing goes wrong in a run but that its token is cancelled at some moment. -/
inductive History (names : Naming) : Store → Prop
  | empty : History names .empty
  | attempt (o : Order) (identity : WorkloadIdentity) {r : RehearsedStore}
      (h : History names r.store) (honly : r.OnlyCancels) :
      History names
        ((o.attempt identity).run.run (RehearsedStore.behaviour names) r).2.2.store
  | order (o : Order) {r : RehearsedStore} (h : History names r.store) (honly : r.OnlyCancels) :
      History names (o.run (RehearsedStore.behaviour names) (·.cancelled) r).2.store

section History

variable {names : Naming} {s : Store} {r : RehearsedStore}

theorem Order.attempt_tidy (hn : names.Distinct) (hs : r.store.Tidy names) (honly : r.OnlyCancels)
    (o : Order) (identity : WorkloadIdentity) :
    let (result, _, r') := (o.attempt identity).run.run (RehearsedStore.behaviour names) r
    r'.store.Tidy names ∧ ∀ e, result = .error e → e.isMismatch = false := by
  have htidies := o.attempt_tidies hn hs identity
  obtain ⟨hresult, hstore⟩ | ⟨hresult, hpending⟩ :=
    RehearsedStore.run_cases (o.attempt_halts identity) honly
  · dsimp only
    rw [hresult, hstore]
    exact ⟨htidies.run.tidy, htidies.run.bound⟩
  · dsimp only
    rw [hresult]
    refine ⟨htidies.pending hpending, ?_⟩
    rintro _ ⟨⟩
    rfl

theorem Order.runEach_tidy (hn : names.Distinct) (hs : r.store.Tidy names) (honly : r.OnlyCancels)
    (o : Order) (identities : List WorkloadIdentity) :
    let (outcomes, r') := o.runEach (RehearsedStore.behaviour names) identities r
    r'.store.Tidy names ∧ ∀ x ∈ outcomes, ∀ e, x.result = .error e → e.isMismatch = false := by
  induction identities generalizing r with
  | nil => exact ⟨hs, nofun⟩
  | cons identity rest ih =>
    obtain ⟨hstore, hbound⟩ := o.attempt_tidy hn hs honly identity
    have honly' : ((o.attempt identity).run.run
        (RehearsedStore.behaviour names) r).2.2.OnlyCancels := by
      rwa [RehearsedStore.OnlyCancels, RehearsedStore.disturbances_run]
    obtain ⟨hstore', hbounds⟩ := ih hstore honly'
    exact ⟨hstore', List.forall_mem_cons.mpr ⟨hbound, hbounds⟩⟩

theorem Order.run_tidy (hn : names.Distinct) (hs : r.store.Tidy names) (honly : r.OnlyCancels)
    (o : Order) :
    (o.run (RehearsedStore.behaviour names) (·.cancelled) r).2.store.Tidy names := by
  unfold Order.run
  split
  · exact hs
  · exact (o.runEach_tidy hn hs honly o.identities).1

theorem History.tidy (hn : names.Distinct) (h : History names s) : s.Tidy names := by
  induction h with
  | empty => exact tidy_empty
  | attempt o identity _ honly ih => exact (o.attempt_tidy hn ih honly identity).1
  | order o _ honly ih => exact o.run_tidy hn ih honly

theorem ReconcileError.head_message (e : ReconcileError) :
    e.message.toList.head? = some (match e with
      | .directory _ => 'd'
      | .declaration _ => 'i'
      | .appIdMismatch .. => 's') := by
  cases e <;> unfold message <;>
    simp only [String.toList_append, String.reduceToList, List.cons_append, List.head?_cons]

theorem ReconcileError.message_ne {e e' : ReconcileError} (h : e.isMismatch = false)
    (h' : e'.isMismatch = true) : e.message ≠ e'.message := by
  intro he
  have hfirst := congrArg (·.toList.head?) he
  simp only [head_message, Option.some.injEq] at hfirst
  cases e' with
  | directory | declaration => cases h'
  | appIdMismatch =>
    cases e with
    | appIdMismatch => cases h
    | directory | declaration => cases hfirst

/-- Where only reconcilers were ever at work the store is in order, and no run fails because a
service principal belongs to another application, nor reports that for an identity. -/
theorem history_orderly (hn : names.Distinct) (h : History names s) :
    s.Orderly ∧ ∀ r : RehearsedStore, r.store = s → r.OnlyCancels → ∀ o : Order,
      (∀ identity e,
        ((o.attempt identity).run.run (RehearsedStore.behaviour names) r).1 = .error e →
          e.isMismatch = false) ∧
      match (o.run (RehearsedStore.behaviour names) (·.cancelled) r).1 with
      | .ok summary =>
        ∀ f ∈ summary.errors, ∀ e : ReconcileError, e.isMismatch = true → f.error ≠ e.message
      | .error e => e.isMismatch = false := by
  refine ⟨(h.tidy hn).toOrderly, ?_⟩
  rintro r rfl honly o
  refine ⟨fun identity => (o.attempt_tidy hn (h.tidy hn) honly identity).2, ?_⟩
  unfold Order.run
  cases hviolation : o.violation? with
  | some why => rfl
  | none =>
    obtain ⟨-, hbounds⟩ := o.runEach_tidy hn (h.tidy hn) honly o.identities
    intro f hf e' he'
    obtain ⟨x, hx, hfailure⟩ := List.mem_filterMap.mp hf
    unfold IdentityOutcome.failure? at hfailure
    cases hresult : x.result with
    | ok => simp [hresult] at hfailure
    | error e =>
      simp only [hresult, Option.some.injEq] at hfailure
      exact hfailure ▸ ReconcileError.message_ne (hbounds x hx e hresult) he'

namespace Leftover

def identity : WorkloadIdentity :=
  ⟨"payments", ["tether"], [.basic "gh-main" "https://oidc.example" "repo:acme/payments"]⟩

def order (action : Action) : Order := ⟨[identity], action, false, 1⟩

def provisioned : Store :=
  (((order .provision).attempt identity).run.run
    (RehearsedStore.behaviour .counted) .empty).2.2.store

def teardown : RehearsedStore :=
  ⟨provisioned, false, [], [⟨.deleteServicePrincipal, 0, true, none⟩]⟩

def left : Store :=
  (((order .teardown).attempt identity).run.run
    (RehearsedStore.behaviour .counted) teardown).2.2.store

theorem history : History .counted left := by
  have hprovisioned := @History.attempt .counted (order .provision) identity .empty .empty
    (List.forall_mem_nil _)
  exact @History.attempt .counted (order .teardown) identity teardown hprovisioned
    fun _ hx => List.mem_singleton.mp hx ▸ rfl

end Leftover

/-- After a teardown that left an application alone, provisioning can still find no service
principal of another one. -/
theorem history_orderly_leftover :
    Naming.counted.Distinct ∧ History .counted Leftover.left ∧
    Leftover.left.applications.length = 1 ∧ Leftover.left.principals = [] ∧
    Leftover.left.Orderly ∧
    ∀ e, (((Leftover.order .provision).attempt Leftover.identity).run.run
      (RehearsedStore.behaviour .counted) ⟨Leftover.left, false, [], []⟩).1 = .error e →
        e.isMismatch = false := by
  obtain ⟨horderly, hruns⟩ := history_orderly Naming.counted_distinct Leftover.history
  have hrun := hruns ⟨Leftover.left, false, [], []⟩ rfl (List.forall_mem_nil _)
    (Leftover.order .provision)
  exact ⟨Naming.counted_distinct, Leftover.history, rfl, rfl, horderly, hrun.1 Leftover.identity⟩

end History

end Federation
