import Federation.Proofs.Confluence
import Federation.Proofs.Converge
import Federation.Proofs.Loaded
import Federation.Proofs.Removal

namespace Federation

open Attempt Store

namespace Store

variable {names : Naming} {s t u : Store} {a : String}

structure Lacks (s : Store) (a : String) : Prop where
  application : ∀ app ∈ s.applications, app.displayName ≠ a
  principal : ∀ p ∈ s.principals, p.displayName ≠ some a

theorem lacks_iff : s.Lacks a ↔ s.applications.filter (·.displayName == a) = [] ∧
    s.principals.filter (·.displayName.any (· == a)) = [] := by
  have hany : ∀ o : Option String, (¬ o.any (· == a) = true) ↔ o ≠ some a := by
    intro o
    cases o <;> simp
  simp only [List.filter_eq_nil_iff, beq_iff_eq, hany]
  exact ⟨fun h => ⟨h.application, h.principal⟩, fun h => ⟨h.1, h.2⟩⟩

theorem Lacks.of_alike (h : s.Lacks a) (halike : Alike names (· == a) t s) : t.Lacks a := by
  obtain ⟨happs, hprincipals⟩ := lacks_iff.mp h
  exact lacks_iff.mpr ⟨halike.applications.trans happs, halike.principals.trans hprincipals⟩

theorem Lacks.find?_application (h : s.Lacks a) :
    s.applications.find? (·.displayName = a) = none :=
  List.find?_eq_none.mpr fun app happ => by simpa using h.application app happ

theorem Lacks.find?_principal (h : s.Lacks a) :
    s.principals.find? (·.displayName = some a) = none :=
  List.find?_eq_none.mpr fun p hp => by simpa using h.principal p hp

theorem Lacks.credentialsOf (hn : names.Distinct) (hs : s.Sound names) (h : s.Lacks a) (n : Nat) :
    s.credentialsOf (names.applicationId a n) = [] := by
  refine hs.credentialsOf_stray (Bool.eq_false_iff.mpr fun happ => ?_)
  obtain ⟨app, hm, hid⟩ := (hasApplication_iff _).mp happ
  exact h.application app hm (hs.displayName_of_id hn hm hid)

/-- The same objects, in the same order. -/
structure Same (s t : Store) : Prop where
  applications : s.applications = t.applications
  principals : s.principals = t.principals
  credentials : ∀ owner, s.credentialsOf owner = t.credentialsOf owner

theorem same_of_lacks (hn : names.Distinct) (hs : s.Traced names) (ht : t.Traced names)
    {P : String → Bool} (halike : Alike names P s t)
    (hlacks : ∀ a, P a = false → s.Lacks a ∧ t.Lacks a) : Same s t := by
  have happs : ∀ u : Store, (∀ a, P a = false → u.Lacks a) →
      u.applications.filter (P ·.displayName) = u.applications := by
    intro u hu
    refine List.filter_eq_self.mpr fun app happ => ?_
    by_contra hP
    exact (hu _ (by simpa using hP)).application app happ rfl
  have hprincipals : ∀ u : Store, u.Traced names → (∀ a, P a = false → u.Lacks a) →
      u.principals.filter (·.displayName.any P) = u.principals := by
    intro u hu hl
    refine List.filter_eq_self.mpr fun p hp => ?_
    obtain ⟨b, m, n, hname, -⟩ := hu.named p hp
    by_contra hP
    rw [hname] at hP
    exact (hl b (by simpa using hP)).principal p hp hname
  refine ⟨?_, ?_, hs.toSound.credentialsOf_congr ht.toSound fun a n => ?_⟩
  · rw [← happs s fun a ha => (hlacks a ha).1, ← happs t fun a ha => (hlacks a ha).2]
    exact halike.applications
  · rw [← hprincipals s hs fun a ha => (hlacks a ha).1,
      ← hprincipals t ht fun a ha => (hlacks a ha).2]
    exact halike.principals
  · cases ha : P a with
    | true => exact halike.credentials a n ha
    | false =>
      rw [(hlacks a ha).1.credentialsOf hn hs.toSound, (hlacks a ha).2.credentialsOf hn ht.toSound]

end Store

variable {names : Naming} {s t : Store}

def newChanges (identity : WorkloadIdentity) : List Change :=
  .applicationCreated identity.displayName none :: .principalCreated identity.displayName none ::
    identity.credentials.map (addedChange identity.displayName · none)

theorem lacks_without {identity : WorkloadIdentity} {app : Ensured Application}
    {principal : Ensured ServicePrincipal} {credentials : List Credential}
    {added : List (ObjectId × Credential)} (hl : s.Lacks identity.displayName)
    (hadds : s.Adds app.fresh principal.fresh added t)
    (hfound : t.Provisioned identity app.get principal.get credentials) :
    (t.without app.get).Lacks identity.displayName := by
  have hname : app.get.displayName = identity.displayName := by
    simpa using List.find?_some hfound.foundApplication
  constructor
  · intro other hm he
    obtain ⟨hm, hne⟩ := List.mem_filter.mp hm
    rw [hadds.applications] at hm
    obtain hold | hfresh := List.mem_append.mp hm
    · exact hl.application other hold he
    · simp [Ensured.eq_of_fresh hfresh] at hne
  · intro other hm he
    have hprincipals : (t.without app.get).principals =
        t.principals.filter (·.id ≠ principal.get.id) := by
      simp only [Store.without, withoutPrincipal, hname, hfound.foundPrincipal,
        if_pos hfound.bound]
    rw [hprincipals] at hm
    obtain ⟨hm, hne⟩ := List.mem_filter.mp hm
    rw [hadds.principals] at hm
    obtain hold | hfresh := List.mem_append.mp hm
    · exact hl.principal other hold he
    · simp [Ensured.eq_of_fresh hfresh] at hne

theorem provision_new (hn : names.Distinct) (hs : s.Traced names) {identity : WorkloadIdentity}
    (hi : identity.Regular) (hl : s.Lacks identity.displayName) :
    ∃ changes t app, (provision identity).run.run (behaviour names) s = (.ok (), changes, t) ∧
      changes.map Change.planned = newChanges identity ∧ (∀ c ∈ changes, c.id?.isSome = true) ∧
      t.applications.find? (·.displayName = identity.displayName) = some app ∧
      (t.without app).Lacks identity.displayName := by
  have hclear : ∀ spec ∈ identity.credentials, ¬ s.Blocked identity.displayName spec := by
    rintro spec - ⟨app, ha, -⟩
    rw [hl.find?_application] at ha
    cases ha
  obtain ⟨hok, hchanges⟩ := (carriedOut_absent names hn hs.toSound hi.names hi.pairs
    hl.find?_application hl.find?_principal).clear hclear
  rw [run_planProvision_absent names identity s hl.find?_application] at hchanges
  cases hrun : (provision identity).run.run (behaviour names) s with
  | mk r more =>
    obtain ⟨changes, t⟩ := more
    rw [hrun] at hok hchanges
    obtain rfl : r = .ok () := hok
    obtain ⟨app, principal, es, rfl, hadds, hfound⟩ := provision_settles hn hs hrun
    have hlength : identity.credentials.length = es.length := by
      rw [hfound.foundCredentials.length_eq, List.length_map]
    refine ⟨_, t, app.get, rfl, hchanges, fun c hc => ?_, hfound.foundApplication,
      lacks_without hl hadds hfound⟩
    have hid := List.mem_map_of_mem (f := (·.id?)) hc
    rw [ids_provisionChanges hlength] at hid
    simp only [List.mem_cons, List.mem_map] at hid
    obtain he | he | ⟨credential, -, he⟩ := hid
    · rw [he]
      rfl
    · rw [he]
      rfl
    · rw [← he]
      rfl

theorem teardown_new (hn : names.Distinct) (hs : s.Traced names) (ht : t.Traced names)
    {identity : WorkloadIdentity} (hi : identity.Regular) (hl : s.Lacks identity.displayName)
    (halike : Alike names (· == identity.displayName) t
      ((provision identity).run.run (behaviour names) s).2.2) :
    ((teardown identity false).run.run (behaviour names) t).1 = .ok () ∧
      ((teardown identity false).run.run (behaviour names) t).2.2.Lacks identity.displayName := by
  obtain ⟨changes, u, app, hrun, -, -, happ, hgone⟩ := provision_new hn hs hi hl
  obtain ⟨more, hteardown⟩ := run_teardown names happ
  have hu : u.Traced names := by
    have htraced := Routine.traced_run (provision identity).run hs
    rwa [hrun] at htraced
  rw [hrun] at halike
  obtain ⟨hresult, -, hstore⟩ := (teardown_keepsTo identity false).run_alike hn
    (P := (· == identity.displayName)) (beq_self_eq_true _) ht hu halike
  rw [hteardown] at hresult hstore
  exact ⟨hresult, hgone.of_alike hstore⟩

namespace Order

/-- However its steps are ordered, a crew carries the order out, and the report, the locks and the
store are then as the condition says. -/
def Yields (o : Order) (names : Naming) (locks : LockTable Nat) (s : Store)
    (post : Summary → LockTable Nat → Store → Prop) : Prop :=
  o.violation? = none ∧
    Crew.Ends names (fun _ => o.permits) (fun c => post (o.summary c) c.weave.locks c.weave.store)
      (o.crew locks s)

theorem isClean_ofOutcomes {identities : List WorkloadIdentity}
    {f : WorkloadIdentity → IdentityOutcome} (h : ∀ i ∈ identities, (f i).result = .ok ()) :
    (Summary.ofOutcomes false (identities.map f)).isClean = true := by
  have hnone : (identities.map f).filterMap (·.failure?) = [] := by
    refine List.filterMap_eq_nil_iff.mpr fun outcome hm => ?_
    obtain ⟨i, hi, rfl⟩ := List.mem_map.mp hm
    rw [IdentityOutcome.failure?, h i hi]
  simp [Summary.ofOutcomes, Summary.isClean, hnone]

theorem violation?_eq_none {o : Order} (h : ∀ i ∈ o.identities, i.Regular) :
    o.violation? = none :=
  List.findSome?_eq_none_iff.mpr fun i hi => (h i hi).valid

end Order

/-- Every declaration that can be loaded can be carried out where nothing goes by its names: all is
reported as created, in the order of the declaration. A teardown after that leaves the store as it
was. -/
theorem loaded_without_residue (hn : names.Distinct) {origin text : String} {d : Declaration}
    (hd : Declaration.ofText origin text = .ok d) (hs : s.Reachable names)
    (hlacks : ∀ i ∈ d.identities, s.Lacks i.displayName) {locks : LockTable Nat}
    (hlocks : locks.Sound) (hfree : locks.claims = []) (m n : Nat) :
    (⟨d.identities, .provision, false, m⟩ : Order).Yields names locks s fun report locks t =>
      report.isClean = true ∧
      report.changes.map Change.planned = d.identities.flatMap newChanges ∧
      (∀ c ∈ report.changes, c.id?.isSome = true) ∧
      (⟨d.identities, .teardown, false, n⟩ : Order).Yields names locks t fun report _ u =>
        report.isClean = true ∧ u.Same s := by
  obtain ⟨hnames, hregular⟩ := Declaration.regular_of_ofText hd
  refine ⟨Order.violation?_eq_none hregular,
    (Order.crew_ends hn hlocks hfree hs.traced hnames).mono ?_⟩
  rintro c ⟨hsummary, hleaves, htraced, hlocks', hfree'⟩
  -- A crew leaves what each identity would have left alone, first created and then torn down.
  have hnew : ∀ i ∈ d.identities, _ := fun i hi =>
    provision_new hn hs.traced (hregular i hi) (hlacks i hi)
  have hgone : ∀ i ∈ d.identities, _ := fun i hi =>
    teardown_new hn hs.traced htraced (hregular i hi) (hlacks i hi) (hleaves.each i hi)
  rw [hsummary]
  refine ⟨Order.isClean_ofOutcomes fun i hi => ?_, ?_, fun change hchange => ?_,
    Order.violation?_eq_none hregular,
    (Order.crew_ends hn hlocks' hfree' htraced hnames).mono ?_⟩
  · obtain ⟨changes, t, app, hrun, -⟩ := hnew i hi
    exact congrArg Prod.fst hrun
  · simp only [Summary.ofOutcomes, List.map_flatMap, List.flatMap_map]
    refine List.flatMap_congr fun i hi => ?_
    obtain ⟨changes, t, app, hrun, hplanned, -⟩ := hnew i hi
    rw [← hplanned, Order.outcome]
    exact congrArg (fun r => r.2.1.map Change.planned) hrun
  · obtain ⟨outcome, ho, hchange⟩ := List.mem_flatMap.mp hchange
    obtain ⟨i, hi, rfl⟩ := List.mem_map.mp ho
    obtain ⟨changes, t, app, hrun, -, hids, -⟩ := hnew i hi
    have hmade : ((⟨d.identities, .provision, false, m⟩ : Order).outcome names s i).changes =
        changes := congrArg (fun r => r.2.1) hrun
    exact hids change (hmade ▸ hchange)
  -- Under all other names neither run has changed anything.
  · rintro c' ⟨hsummary', hleaves', htraced', -⟩
    rw [hsummary']
    refine ⟨Order.isClean_ofOutcomes fun i hi => (hgone i hi).1, ?_⟩
    have hrest : ∀ i ∈ d.identities,
        (!d.identities.any (·.displayName == i.displayName)) = false := fun i hi => by
      rw [Bool.not_eq_false', List.any_eq_true]
      exact ⟨i, hi, beq_self_eq_true _⟩
    refine same_of_lacks hn htraced' hs.traced
      (P := fun a => !d.identities.any (·.displayName == a))
      ((hleaves'.rest _ hrest).trans (hleaves.rest _ hrest)) fun a ha => ?_
    rw [Bool.not_eq_false', List.any_eq_true] at ha
    obtain ⟨i, hi, he⟩ := ha
    obtain rfl := eq_of_beq he
    exact ⟨(hgone i hi).2.of_alike (hleaves'.each i hi), hlacks i hi⟩

namespace Residue

def text : String :=
  "identities:\n- name: ledger\n  federated_credentials:\n" ++
  "  - \x7bname: gh-main, issuer: https://oidc.example, subject: main\x7d\n" ++
  "  - \x7bname: aks, issuer: https://aks.example, " ++
    "service_account: \x7bnamespace: prod, name: web\x7d\x7d\n"

def declaration : Declaration :=
  ⟨⟨none, none⟩, [⟨"ledger", [], [.basic "gh-main" "https://oidc.example" "main",
    .basic "aks" "https://aks.example" "system:serviceaccount:prod:web"]⟩]⟩

theorem ofText_text : Declaration.ofText "tether.yaml" text = .ok declaration := by
  decide +kernel

end Residue

theorem loaded_without_residue_ledger :
    Naming.counted.Distinct ∧
    Declaration.ofText "tether.yaml" Residue.text = .ok Residue.declaration ∧
    (DryRun.taken "gh-tags").Reachable .counted ∧ (LockTable.empty : LockTable Nat).Sound ∧
    (∀ i ∈ Residue.declaration.identities, (DryRun.taken "gh-tags").Lacks i.displayName) ∧
    (⟨Residue.declaration.identities, .provision, false, 1⟩ : Order).Yields .counted .empty
      (DryRun.taken "gh-tags") fun report locks t =>
        report.changes.length = 4 ∧
        (⟨Residue.declaration.identities, .teardown, false, 1⟩ : Order).Yields .counted locks t
          fun report _ u => report.isClean = true ∧ u.Same (DryRun.taken "gh-tags") := by
  have hlacks : ∀ i ∈ Residue.declaration.identities,
      (DryRun.taken "gh-tags").Lacks i.displayName := fun i hi => by
    obtain rfl := List.mem_singleton.mp hi
    exact lacks_iff.mpr ⟨by decide, by decide⟩
  obtain ⟨hvalid, hends⟩ := loaded_without_residue Naming.counted_distinct Residue.ofText_text
    (DryRun.taken_reachable "gh-tags") hlacks LockTable.sound_empty rfl 1 1
  refine ⟨Naming.counted_distinct, Residue.ofText_text, DryRun.taken_reachable _,
    LockTable.sound_empty, hlacks, hvalid, hends.mono ?_⟩
  rintro c ⟨-, hplanned, -, hteardown⟩
  have hlength := congrArg List.length hplanned
  rw [List.length_map] at hlength
  exact ⟨hlength, hteardown⟩

end Federation
