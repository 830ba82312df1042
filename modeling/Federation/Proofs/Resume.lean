import Mathlib.Data.List.Nodup
import Mathlib.Logic.Relation
import Federation.Proofs.Cut
import Federation.Proofs.Growth
import Federation.Proofs.Removal

namespace Federation

open Attempt Store

section Provision

variable {names : Naming} {α β : Type} {s t u : Store}

/-- From where it was cut off, the attempt comes to the same end; until then it only added. -/
def Attempt.Resumes (names : Naming) (m : Attempt α) (s : Store) : Prop :=
  ∀ t, m.run.Pending names s t → s.Grown t ∧ m.ends names t = m.ends names s

/-- An object is ensured, and what follows goes on with it. Whether it was cut off before the object
was there or after that, the next attempt finds it or creates it, and goes on with the same. -/
theorem Attempt.Resumes.ensured {m : Attempt (Ensured β)} {change : Ensured β → Change}
    {e : Ensured β} (rest : β → Attempt α)
    (hrun : m.run.run (behaviour names) s = (.ok e, [], u)) (hgrown : s.Grown u)
    (hcut : ∀ t, m.run.Pending names s t → t = s ∨ t = u)
    (hagain : ∀ t, u.Grown t →
      m.run.run (behaviour names) t = (.ok (.existing e.get), [], t))
    (hrest : (rest e.get).Resumes names u) :
    (do let e ← m; record (change e); rest e.get : Attempt α).Resumes names s := by
  have hends : ∀ {s u : Store} {e : Ensured β}, m.run.run (behaviour names) s = (.ok e, [], u) →
      (do let e ← m; record (change e); rest e.get : Attempt α).ends names s =
        (rest e.get).ends names u := fun h =>
    (ends_andThen _ h).trans (ends_record_andThen _)
  intro t hpending
  -- Cut off before the object was there, the attempt starts anew; after that it goes on.
  have hcases : t = s ∨ (u.Grown t ∧ (rest e.get).ends names t = (rest e.get).ends names u) := by
    obtain hfirst | hlater := (pending_andThen_ok _ hrun).mp hpending
    · obtain rfl | rfl := hcut t hfirst
      · exact .inl rfl
      · exact .inr ⟨.refl _, rfl⟩
    · exact .inr (hrest t ((pending_record_andThen _).mp hlater))
  obtain rfl | ⟨hlater, hsame⟩ := hcases
  · exact ⟨.refl _, rfl⟩
  · exact ⟨hgrown.trans hlater, by rw [hends hrun, hends (hagain t hlater)]; exact hsame⟩

theorem ensureApplication_cut {displayName : String}
    (h : (ensureApplication displayName).run.Pending names s t) : t = s := by
  obtain hlookup | hcreate := (pending_andThen_ok _
    (run_lookup_application names displayName s)).mp (pending_holding.mp h)
  · exact pending_lookup.mp hlookup
  · cases hf : s.applications.find? (·.displayName = displayName) with
    | some app =>
      rw [hf] at hcreate
      cases hcreate
    | none =>
      rw [hf] at hcreate
      exact pending_perform.mp (pending_map.mp hcreate)

theorem ensureServicePrincipal_cut {app : Application} {tags : List String}
    (h : (ensureServicePrincipal app tags).run.Pending names s t) : t = s := by
  obtain hlookup | hcreate := (pending_andThen_ok _
    (run_lookup_principal names app.displayName s)).mp (pending_holding.mp h)
  · exact pending_lookup.mp hlookup
  · cases hf : s.principals.find? (·.displayName = some app.displayName) with
    | some principal =>
      rw [hf] at hcreate
      dsimp only at hcreate
      split at hcreate
      · cases hcreate
      · cases hcreate
    | none =>
      rw [hf] at hcreate
      exact pending_perform.mp (pending_map.mp hcreate)

theorem ensureCredential_cut {app : Application} {spec : CredentialSpec}
    (hs : s.hasApplication app.id = true)
    (h : (ensureCredential app spec).run.Pending names s t) :
    t = s ∨ ((ensureCredential app spec).run.run (behaviour names) s).2.2 = t := by
  obtain hlookup | hadd := (pending_andThen_ok _
    (run_lookup_credential names app.id spec.issuer spec.subject s hs)).mp (pending_holding.mp h)
  · exact .inl (pending_lookup.mp hlookup)
  · rw [run_ensureCredential names app spec s hs]
    cases hf : (s.credentialsOf app.id).find? (·.answers spec.issuer spec.subject) with
    | some c =>
      rw [hf] at hadd
      cases hadd
    | none =>
      rw [hf] at hadd
      have hperform := run_perform (behaviour names) s (.addCredential app.id spec)
      change _ = ((s.addCredential names app.id spec).1.mapError _, [], _) at hperform
      rw [addCredential_eq names _ _ hs] at hperform
      cases htaken : (s.credentialsOf app.id).any (·.name = spec.name) with
      | true =>
        rw [htaken] at hperform
        exact .inl (pending_perform.mp ((pending_andThen_error _ hperform).mp hadd))
      | false =>
        rw [htaken] at hperform
        obtain hadd | hagain := (pending_andThen_ok _ hperform).mp hadd
        · exact .inl (pending_perform.mp hadd)
        · exact .inr (pending_perform.mp (pending_map.mp hagain)).symm

theorem provisionCredentials_resumes {app : Application} (hs : s.hasApplication app.id = true)
    (displayName : String) (specs : List CredentialSpec) :
    (provisionCredentials displayName app specs).Resumes names s := by
  induction specs generalizing s with
  | nil => exact fun t h => nomatch h
  | cons spec rest ih =>
    obtain ⟨-, hrun⟩ | ⟨e, u, hrun, hadds, hfinds, -⟩ := ensureCredential_settles names spec hs
    · intro t hpending
      have hcut := ensureCredential_cut hs ((pending_andThen_error _ hrun).mp hpending)
      rw [hrun, eq_comm, or_self] at hcut
      exact hcut ▸ ⟨.refl s, rfl⟩
    · have hlater : ∀ t, u.Grown t → t.hasApplication app.id = true := fun t ht =>
        (hadds.grown.trans ht).hasApplication hs
      refine Attempt.Resumes.ensured (fun _ => provisionCredentials displayName app rest) hrun
        hadds.grown (fun t ht => ?_)
        (fun t ht => ensureCredential_again (hlater t ht) (ht.finds hfinds))
        (ih (hlater u (.refl u)))
      have hcut := ensureCredential_cut hs ht
      rw [hrun] at hcut
      exact hcut.imp_right Eq.symm

def provisionApplication (identity : WorkloadIdentity) (app : Application) : Attempt Unit := do
  record (principalChange identity.displayName (← ensureServicePrincipal app identity.tags))
  provisionCredentials identity.displayName app identity.credentials

theorem provisionApplication_resumes (hn : names.Distinct) (hs : s.Sound names)
    (identity : WorkloadIdentity) {app : Application} (ha : app ∈ s.applications) :
    (provisionApplication identity app).Resumes names s := by
  obtain ⟨principal, -, -, hrun⟩ | ⟨e, u, hrun, hadds, hfind, hbound, -⟩ :=
    ensureServicePrincipal_settles hn hs ha identity.tags
  · intro t hpending
    rw [ensureServicePrincipal_cut ((pending_andThen_error _ hrun).mp hpending)]
    exact ⟨.refl s, rfl⟩
  · have hu : u.hasApplication app.id = true :=
      hadds.grown.hasApplication (hasApplication_of_mem ha)
    exact Attempt.Resumes.ensured
      (fun _ => provisionCredentials identity.displayName app identity.credentials) hrun
      hadds.grown (fun t ht => .inl (ensureServicePrincipal_cut ht))
      (fun t ht => ensureServicePrincipal_again (ht.principal hfind) hbound identity.tags)
      (provisionCredentials_resumes hu _ _)

theorem provision_resumes (hn : names.Distinct) (hs : s.Traced names)
    (identity : WorkloadIdentity) : (provision identity).Resumes names s := by
  obtain ⟨e, u, hrun, hadds, hfind⟩ := ensureApplication_settles names identity.displayName s
  have hu : u.Traced names := by
    have htraced := Routine.traced_run (ensureApplication identity.displayName).run hs
    rwa [hrun] at htraced
  exact Attempt.Resumes.ensured (provisionApplication identity) hrun hadds.grown
    (fun t ht => .inl (ensureApplication_cut ht))
    (fun t ht => ensureApplication_again (ht.application hfind))
    (provisionApplication_resumes hn hu.toSound identity (List.mem_of_find?_eq_some hfind))

end Provision

section Teardown

variable {names : Naming} {s t : Store} {app : Application}

theorem deleting_cut {c : Call} (h : (deleting false c).run.Pending names s t) : t = s :=
  pending_perform.mp (pending_map.mp h)

theorem teardownCredentials_cut {displayName : String} {specs : List CredentialSpec}
    (hs : s.hasApplication app.id = true)
    (h : (teardownCredentials false displayName app specs).run.Pending names s t) :
    Trimmed app.id s t := by
  induction specs generalizing s with
  | nil => cases h
  | cons spec rest ih =>
    obtain hlookup | hfound := (pending_andThen_ok _
      (run_lookup_credential names app.id spec.issuer spec.subject s hs)).mp h
    · rw [pending_lookup.mp hlookup]
      exact .refl _ s
    · cases hf : (s.credentialsOf app.id).find? (·.answers spec.issuer spec.subject) with
      | none =>
        rw [hf] at hfound
        exact ih hs hfound
      | some c =>
        rw [hf] at hfound
        have htrim := trimmed_deleteCredential app.id c.id s
        obtain hdelete | hrest := (pending_andThen_ok _ (run_deleting names
          (behaviour_deleteCredential names (List.mem_of_find?_eq_some hf)))).mp hfound
        · rw [deleting_cut hdelete]
          exact .refl _ s
        · exact htrim.trans (ih ((htrim.hasApplication app.id).trans hs)
            ((pending_record_andThen _).mp hrest))

theorem teardownPrincipal_cut (h : (teardownPrincipal false app).run.Pending names s t) :
    t = s := by
  obtain hlookup | hfound := (pending_andThen_ok _
    (run_lookup_principal names app.displayName s)).mp h
  · exact pending_lookup.mp hlookup
  · cases hf : s.principals.find? (·.displayName = some app.displayName) with
    | none =>
      rw [hf] at hfound
      cases hfound
    | some principal =>
      rw [hf] at hfound
      dsimp only at hfound
      split at hfound
      · obtain hdelete | hdone := (pending_andThen_ok _ (run_deleting names
          (behaviour_deleteServicePrincipal names (List.mem_of_find?_eq_some hf)))).mp hfound
        · exact deleting_cut hdelete
        · cases hdone
      · cases hfound

/-- The application is the last to be deleted; until then only credentials of its own can be gone,
and after them its service principal. -/
theorem teardown_cut {identity : WorkloadIdentity}
    (ha : s.applications.find? (·.displayName = identity.displayName) = some app)
    (h : (teardown identity false).run.Pending names s t) :
    ∃ u, Trimmed app.id s u ∧ (t = u ∨ t = u.withoutPrincipal app) := by
  have happ : s.hasApplication app.id = true :=
    hasApplication_of_mem (List.mem_of_find?_eq_some ha)
  -- Cut off at the lookup, among the credentials, at the service principal, or at the end.
  obtain hlookup | hfound := (pending_andThen_ok _
    (run_lookup_application names identity.displayName s)).mp h
  · exact ⟨s, .refl _ s, .inl (pending_lookup.mp hlookup)⟩
  rw [ha] at hfound
  obtain ⟨_, u, hcreds, htrimmed⟩ :=
    run_teardownCredentials names identity.displayName identity.credentials happ
  have hprincipal := run_teardownPrincipal names false app u
  rw [if_neg Bool.false_ne_true] at hprincipal
  obtain hfirst | hlater := (pending_andThen_ok _ hcreds).mp hfound
  · exact ⟨t, teardownCredentials_cut happ hfirst, .inl rfl⟩
  obtain hsecond | hlast := (pending_andThen_ok _ hprincipal).mp hlater
  · exact ⟨u, htrimmed, .inl (teardownPrincipal_cut hsecond)⟩
  have hdelete : behaviour names (.deleteApplication app.id) (u.withoutPrincipal app) =
      (.ok (), u.without app) :=
    deleteApplication_withoutPrincipal ((htrimmed.hasApplication app.id).trans happ)
  obtain hthird | hdone := (pending_andThen_ok _ (run_deleting names hdelete)).mp hlast
  · exact ⟨u, htrimmed, .inr (deleting_cut hthird)⟩
  · cases hdone

theorem sublist_withoutPrincipal (s : Store) (app : Application) :
    (s.withoutPrincipal app).principals.Sublist s.principals := by
  unfold withoutPrincipal
  split
  · split
    · exact List.filter_sublist
    · exact .refl _
  · exact .refl _

theorem without_withoutPrincipal (h : (s.principals.map (·.displayName)).Nodup) :
    (s.withoutPrincipal app).without app = s.without app := by
  have hsame : ((s.withoutPrincipal app).withoutPrincipal app).principals =
      (s.withoutPrincipal app).principals := by
    cases hf : s.principals.find? (·.displayName = some app.displayName) with
    | none => simp only [withoutPrincipal, hf]
    | some principal =>
      by_cases hid : principal.appId = app.appId
      · have hmem := List.mem_of_find?_eq_some hf
        have hname : principal.displayName = some app.displayName := by
          simpa using List.find?_some hf
        have hgone : (s.principals.filter (·.id ≠ principal.id)).find?
            (·.displayName = some app.displayName) = none := by
          refine List.find?_eq_none.mpr fun other hother hsame => ?_
          obtain ⟨hother, hne⟩ := List.mem_filter.mp hother
          have heq : other = principal := List.inj_on_of_nodup_map h hother hmem
            ((of_decide_eq_true hsame).trans hname.symm)
          simp [heq] at hne
        simp only [withoutPrincipal, hf, if_pos hid, hgone]
      · simp only [withoutPrincipal, hf, if_neg hid]
  rw [Store.without, Store.without, hsame, withoutPrincipal_eq s app]

theorem teardown_resumes (h : (s.principals.map (·.displayName)).Nodup)
    (identity : WorkloadIdentity) (hcut : (teardown identity false).run.Pending names s t) :
    (t.principals.map (·.displayName)).Nodup ∧
      (teardown identity false).ends names t = (teardown identity false).ends names s := by
  cases ha : s.applications.find? (·.displayName = identity.displayName) with
  | none =>
    obtain hlookup | hfound := (pending_andThen_ok _
      (run_lookup_application names identity.displayName s)).mp hcut
    · rw [pending_lookup.mp hlookup]
      exact ⟨h, rfl⟩
    · rw [ha] at hfound
      cases hfound
  | some app =>
    have hends : ∀ {s : Store},
        s.applications.find? (·.displayName = identity.displayName) = some app →
          (teardown identity false).ends names s = (.ok (), s.without app) := fun h => by
      obtain ⟨changes, hrun⟩ := run_teardown names h
      rw [ends, hrun]
    obtain ⟨u, htrimmed, rfl | rfl⟩ := teardown_cut ha hcut
    · rw [htrimmed.principals]
      refine ⟨h, ?_⟩
      rw [hends ha, hends (htrimmed.applications ▸ ha), htrimmed.without]
    · have hu : (u.principals.map (·.displayName)).Nodup := htrimmed.principals ▸ h
      have happs : (u.withoutPrincipal app).applications = s.applications := by
        rw [withoutPrincipal_eq]
        exact htrimmed.applications
      refine ⟨hu.sublist ((sublist_withoutPrincipal u app).map _), ?_⟩
      rw [hends ha, hends (happs ▸ ha), without_withoutPrincipal hu, htrimmed.without]

end Teardown

variable {names : Naming} {s t : Store}

/-- Attempts at an identity that are each cut off, at any moment, and then one that is not: it comes
to the result and leaves the store that one attempt would have from the start. -/
theorem interrupted_resumes (hn : names.Distinct) (hs : s.Reachable names)
    (hsingle : (s.principals.map (·.displayName)).Nodup) {o : Order} (hreal : o.dryRun = false)
    {identity : WorkloadIdentity}
    (hcuts : Relation.ReflTransGen ((o.attempt identity).CutOff names) s t) :
    let resumed := (o.attempt identity).run.run (behaviour names) t
    let single := (o.attempt identity).run.run (behaviour names) s
    resumed.1 = single.1 ∧ resumed.2.2 = single.2.2 := by
  have hkeeps : KeepsTo names identity.displayName (fun _ => True) (o.attempt identity) :=
    o.attempt_keepsTo identity
  suffices t.Traced names ∧ (o.action = .teardown → (t.principals.map (·.displayName)).Nodup) ∧
      (o.attempt identity).ends names t = (o.attempt identity).ends names s from
    Prod.ext_iff.mp this.2.2
  induction hcuts with
  | refl => exact ⟨hs.traced, fun _ => hsingle, rfl⟩
  | tail _ hcut ih =>
    obtain ⟨htraced, hnodup, hsame⟩ := ih
    have hpending := hcut.pending hkeeps htraced
    refine ⟨hpending.traced htraced, ?_⟩
    rw [← hsame]
    unfold Order.attempt at hpending ⊢
    rw [hreal] at hpending ⊢
    cases ha : o.action with
    | provision =>
      rw [ha] at hpending
      exact ⟨nofun, (provision_resumes hn htraced identity _ hpending).2⟩
    | teardown =>
      rw [ha] at hpending
      obtain ⟨hnodup', hends⟩ := teardown_resumes (hnodup ha) identity hpending
      exact ⟨fun _ => hnodup', hends⟩

namespace Interrupted

def identity : WorkloadIdentity :=
  ⟨"payments", ["tether"], [.basic "gh-main" "https://oidc.example" "repo:acme/payments"]⟩

def order : Order := ⟨[identity], .provision, false, 1⟩

def first : RehearsedStore :=
  RehearsedStore.empty.prepare [⟨.createServicePrincipal, 0, false, none⟩]

def begun : Store :=
  ((order.attempt identity).run.run (RehearsedStore.behaviour .counted) first).2.2.store

def second : RehearsedStore := ⟨begun, false, [], [⟨.addCredential, 0, true, none⟩]⟩

def left : Store :=
  ((order.attempt identity).run.run (RehearsedStore.behaviour .counted) second).2.2.store

theorem cuts : Relation.ReflTransGen ((order.attempt identity).CutOff .counted) .empty left := by
  have hfirst : (order.attempt identity).CutOff .counted .empty begun :=
    ⟨first, rfl, fun x hx => List.mem_singleton.mp hx ▸ rfl, ⟨_, rfl, rfl⟩, rfl⟩
  have hsecond : (order.attempt identity).CutOff .counted begun left :=
    ⟨second, rfl, fun x hx => List.mem_singleton.mp hx ▸ rfl, ⟨_, rfl, rfl⟩, rfl⟩
  exact .tail (.single hfirst) hsecond

end Interrupted

/-- The third attempt finds all three objects there, and so does one attempt leave them. -/
theorem interrupted_resumes_twice :
    let attempt := Interrupted.order.attempt Interrupted.identity
    let resumed := attempt.run.run (behaviour .counted) Interrupted.left
    let single := attempt.run.run (behaviour .counted) .empty
    Naming.counted.Distinct ∧ Store.empty.Reachable .counted ∧
    (Store.empty.principals.map (·.displayName)).Nodup ∧ Interrupted.order.dryRun = false ∧
    Relation.ReflTransGen (attempt.CutOff .counted) .empty Interrupted.left ∧
    Interrupted.left.credentials.length = 1 ∧
    resumed.2.1.map (·.kind) = [.applicationUnchanged, .principalUnchanged, .credentialUnchanged] ∧
    resumed.1 = single.1 ∧ resumed.2.2 = single.2.2 :=
  ⟨Naming.counted_distinct, .empty, .nil, rfl, Interrupted.cuts, rfl, rfl,
    interrupted_resumes Naming.counted_distinct .empty .nil rfl Interrupted.cuts⟩

end Federation
