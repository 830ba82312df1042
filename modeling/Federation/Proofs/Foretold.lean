import Federation.Proofs.Excision
import Federation.Proofs.Locality

namespace Federation

open Attempt Store

namespace Store

variable {s t : Store} {owner : ObjectId} {spec : CredentialSpec}

/-- Both stores have the same credential for the declared one, or neither has any. -/
def SameFind (owner : ObjectId) (s t : Store) (spec : CredentialSpec) : Prop :=
  (t.credentialsOf owner).find? (·.answers spec.issuer spec.subject) =
    (s.credentialsOf owner).find? (·.answers spec.issuer spec.subject)

theorem sameFind_deleteCredential {c : Credential} (hs : ((s.credentialsOf owner).map (·.id)).Nodup)
    (hf : (s.credentialsOf owner).find? (·.answers spec.issuer spec.subject) = some c)
    {other : CredentialSpec} (hpair : (spec.issuer, spec.subject) ≠ (other.issuer, other.subject)) :
    SameFind owner s (s.deleteCredential owner c.id).2 other := by
  have hkept : ∀ x ∈ s.credentialsOf owner, x.answers other.issuer other.subject = true →
      decide (x.id ≠ c.id) = true := by
    intro x hx hother
    apply decide_eq_true
    intro hid
    have hsame : x = c := List.inj_on_of_nodup_map hs hx (List.mem_of_find?_eq_some hf) hid
    subst hsame
    have hspec := List.find?_some hf
    simp only [Credential.answers, Bool.and_eq_true, beq_iff_eq] at hspec hother
    apply hpair
    rw [← hspec.1, ← hspec.2, hother.1, hother.2]
  unfold SameFind
  rw [deleteCredential_snd, credentialsOf_deleteCredential, if_pos rfl]
  apply find?_eq_of_filter (p := (·.id ≠ c.id))
  · simp [List.filter_filter]
  · intro x hx
    exact hkept x (List.mem_of_mem_filter hx)
  · exact hkept

end Store

variable {names : Naming} {s t : Store} {app : Application}

def credentialDeletions (displayName : String) (owner : ObjectId) (s : Store)
    (specs : List CredentialSpec) : List Change :=
  specs.filterMap fun spec =>
    ((s.credentialsOf owner).find? (·.answers spec.issuer spec.subject)).map fun c =>
      .credentialDeleted displayName c.name c.id

theorem run_teardownCredentials_dry (names : Naming) (displayName : String)
    (h : s.hasApplication app.id = true)
    (specs : List CredentialSpec) :
    (teardownCredentials true displayName app specs).run.run (behaviour names) s =
      (.ok (), credentialDeletions displayName app.id s specs, s) := by
  induction specs with
  | nil => rfl
  | cons spec rest ih =>
    cases hf : (s.credentialsOf app.id).find? (·.answers spec.issuer spec.subject) with
    | none =>
      rw [run_teardownCredentials_missing names true displayName rest h hf, ih]
      simp [credentialDeletions, hf]
    | some c =>
      rw [run_teardownCredentials_found names true displayName rest h hf, if_pos rfl, ih]
      simp [credentialDeletions, hf]

theorem changes_teardownCredentials (names : Naming) (displayName : String)
    {specs : List CredentialSpec}
    (h : t.hasApplication app.id = true) (ht : ((t.credentialsOf app.id).map (·.id)).Nodup)
    (hpairs : (specs.map fun spec => (spec.issuer, spec.subject)).Nodup)
    (hsame : ∀ spec ∈ specs, SameFind app.id s t spec) :
    ((teardownCredentials false displayName app specs).run.run (behaviour names) t).2.1 =
      credentialDeletions displayName app.id s specs := by
  induction specs generalizing t with
  | nil => rfl
  | cons spec rest ih =>
    rw [List.map_cons, List.nodup_cons] at hpairs
    have hspec : SameFind app.id s t spec := hsame spec List.mem_cons_self
    have hrest : ∀ other ∈ rest, SameFind app.id s t other := fun other ho =>
      hsame other (List.mem_cons_of_mem _ ho)
    cases hf : (t.credentialsOf app.id).find? (·.answers spec.issuer spec.subject) with
    | none =>
      rw [run_teardownCredentials_missing names false displayName rest h hf,
        ih h ht hpairs.2 hrest]
      simp [credentialDeletions, hspec.symm.trans hf]
    | some c =>
      have htrim := trimmed_deleteCredential app.id c.id t
      have hids : (((t.deleteCredential app.id c.id).2.credentialsOf app.id).map (·.id)).Nodup := by
        rw [deleteCredential_snd, credentialsOf_deleteCredential, if_pos rfl]
        exact ht.sublist (List.filter_sublist.map _)
      -- The pairs differ, so what is deleted here is nothing that is still to be looked for.
      have hlater : ∀ other ∈ rest, SameFind app.id s (t.deleteCredential app.id c.id).2 other := by
        intro other ho
        have hpair : (spec.issuer, spec.subject) ≠ (other.issuer, other.subject) := by
          intro he
          apply hpairs.1
          rw [he]
          exact List.mem_map_of_mem (f := fun spec => (spec.issuer, spec.subject)) ho
        exact (sameFind_deleteCredential ht hf hpair).trans (hrest other ho)
      have happ := (htrim.hasApplication app.id).trans h
      rw [run_teardownCredentials_found names false displayName rest h hf,
        if_neg Bool.false_ne_true]
      simp only [ih happ hids hpairs.2 hlater]
      simp [credentialDeletions, hspec.symm.trans hf]

/-- A dry run of a teardown leaves the store as it is and puts on record what the run does, with the
same objects. -/
theorem teardown_as_rehearsed (hn : names.Fresh) (hs : s.Reachable names)
    {identity : WorkloadIdentity}
    (hpairs : (identity.credentials.map fun spec => (spec.issuer, spec.subject)).Nodup) :
    ∃ changes t,
      (teardown identity true).run.run (behaviour names) s = (.ok (), changes, s) ∧
      (teardown identity false).run.run (behaviour names) s = (.ok (), changes, t) := by
  cases hfirst : s.applications.find? (·.displayName = identity.displayName) with
  | none =>
    exact ⟨_, s, run_teardown_absent names true identity hfirst,
      run_teardown_absent names false identity hfirst⟩
  | some app =>
    obtain ⟨created, hkept⟩ := hs.kept hn
    have happ : s.hasApplication app.id = true :=
      hasApplication_of_mem (List.mem_of_find?_eq_some hfirst)
    have hdry := run_teardownCredentials_dry names identity.displayName happ
      identity.credentials
    have hchanges := changes_teardownCredentials names identity.displayName happ
      (hkept.credentialsOf_ids app.id) hpairs fun _ _ => rfl
    obtain ⟨changes, t, hreal, htrimmed⟩ :=
      run_teardownCredentials names identity.displayName identity.credentials happ
    rw [hreal] at hchanges
    rw [← hchanges] at hdry
    exact ⟨_, s.without app, run_teardown_found names true hfirst hdry (.refl _ s),
      run_teardown_found names false hfirst hreal htrimmed⟩

namespace Foretold

open Excision (spec)

def identity : WorkloadIdentity :=
  ⟨"payments", [], [spec "gh-main" "main", spec "gh-new" "new", spec "gh-tags" "tags"]⟩

end Foretold

theorem teardown_as_rehearsed_namesakes :
    let run := fun dryRun =>
      (teardown Foretold.identity dryRun).run.run (behaviour .placed) Excision.store
    Naming.placed.Fresh ∧ Excision.store.Reachable .placed ∧
    (Foretold.identity.credentials.map fun spec => (spec.issuer, spec.subject)).Nodup ∧
    (run false).2.1.map Change.kind =
      [.credentialDeleted, .credentialDeleted, .applicationDeleted] ∧
    ∃ changes t, run true = (.ok (), changes, Excision.store) ∧
      run false = (.ok (), changes, t) := by
  have hpairs : (Foretold.identity.credentials.map fun spec =>
      (spec.issuer, spec.subject)).Nodup := by decide
  exact ⟨Naming.placed_fresh, Excision.store_reachable, hpairs, by decide +kernel,
    teardown_as_rehearsed Naming.placed_fresh Excision.store_reachable hpairs⟩

/-- A pair that is declared twice takes two credentials, and the dry run meets the first one
twice. -/
example :
    ((teardown Excision.identity true).run.run (behaviour .placed) Excision.store).2.1 ≠
      ((teardown Excision.identity false).run.run (behaviour .placed) Excision.store).2.1 := by
  decide +kernel

end Federation
