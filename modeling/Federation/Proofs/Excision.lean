import Federation.Proofs.Lineage
import Federation.Proofs.Removal

namespace Federation

open Attempt Store

theorem filter_ne_eq_eraseP {α ι : Type} [DecidableEq ι] {key : α → ι} {p : α → Bool} {xs : List α}
    {a : α} (hkeys : (xs.map key).Nodup) (ha : xs.find? p = some a) :
    xs.filter (key · ≠ key a) = xs.eraseP p := by
  induction xs with
  | nil => cases ha
  | cons x rest ih =>
    rw [List.map_cons, List.nodup_cons] at hkeys
    by_cases hx : p x = true
    · obtain rfl : x = a := by simpa [hx] using ha
      have hrest : rest.filter (key · ≠ key x) = rest := by
        apply List.filter_eq_self.mpr
        intro y hy
        have hne : key y ≠ key x := fun he => hkeys.1 (he ▸ List.mem_map_of_mem hy)
        simpa using hne
      rw [List.eraseP_cons_of_pos hx, List.filter_cons_of_neg (by simp), hrest]
    · have hrest : rest.find? p = some a := by simpa [hx] using ha
      have hne : key x ≠ key a := fun he =>
        hkeys.1 (he ▸ List.mem_map_of_mem (List.mem_of_find?_eq_some hrest))
      rw [List.eraseP_cons_of_neg hx, List.filter_cons_of_pos (by simpa using hne),
        ih hkeys.2 hrest]

namespace Store

variable {names : Naming} {s t : Store} {displayName : String} {app : Application}

theorem Reachable.kept (hn : names.Fresh) (h : s.Reachable names) :
    ∃ created, s.Kept names created := by
  induction h with
  | empty => exact ⟨[], kept_empty⟩
  | call _ c ih =>
    obtain ⟨created, hkept⟩ := ih
    exact ⟨_, hkept.call hn c⟩

theorem credentialsOf_eq (s : Store) (owner : ObjectId) :
    s.credentialsOf owner = (s.credentials.filter (·.1 = owner)).map (·.2) := by
  rw [credentialsOf, ← List.filterMap_eq_map, List.filterMap_filter]
  congr 1
  funext e
  by_cases h : e.1 = owner
  · simp [h]
  · simp [h]

theorem Kept.credentialsOf_ids {created : List Application} (h : s.Kept names created)
    (owner : ObjectId) : ((s.credentialsOf owner).map (·.id)).Nodup := by
  rw [credentialsOf_eq, List.map_map]
  exact h.credentialIds.nodup.sublist (List.filter_sublist.map _)

theorem Reachable.follow (h : s.Reachable names) (calls : List (Call × Bool)) :
    (s.follow names calls).2.Reachable names := by
  induction calls generalizing s with
  | nil => exact h
  | cons call rest ih =>
    obtain ⟨c, cancelled⟩ := call
    cases cancelled with
    | false => exact ih (h.call c)
    | true => exact ih h

/-- Of the first store the second lacks the first application of the name, all credentials of that
application, and the first service principal of the name if it belongs to the application. All else
is there, in the order it was. -/
structure Loses (displayName : String) (app : Application) (s t : Store) : Prop where
  first : s.applications.find? (·.displayName = displayName) = some app
  applications : t.applications = s.applications.eraseP (·.displayName = displayName)
  credentials : t.credentials = s.credentials.filter (·.1 ≠ app.id)
  bound : ∀ p, s.principals.find? (·.displayName = some displayName) = some p →
    p.appId = app.appId → t.principals = s.principals.eraseP (·.displayName = some displayName)
  spared : (∀ p, s.principals.find? (·.displayName = some displayName) = some p →
    p.appId ≠ app.appId) → t.principals = s.principals
  minted : t.minted = s.minted

theorem Kept.loses_without {created : List Application} (h : s.Kept names created)
    (hfirst : s.applications.find? (·.displayName = displayName) = some app) :
    s.Loses displayName app (s.without app) := by
  have hname : app.displayName = displayName := by simpa using List.find?_some hfirst
  have hprincipals : (s.without app).principals = (s.withoutPrincipal app).principals := rfl
  rw [withoutPrincipal, hname] at hprincipals
  constructor
  · exact hfirst
  · exact filter_ne_eq_eraseP h.consistent.applicationIds hfirst
  · rfl
  · intro p hp hid
    rw [hprincipals, hp]
    simp only [if_pos hid]
    exact filter_ne_eq_eraseP h.principalIds.nodup hp
  · intro hforeign
    rw [hprincipals]
    cases hp : s.principals.find? (·.displayName = some displayName) with
    | none => rfl
    | some p => simp only [if_neg (hforeign p hp)]
  · rfl

end Store

variable {names : Naming} {s : Store}

/-- On every store that calls lead to, a teardown gets through. Without an application of the name
it does nothing; else it takes away that application and what belongs to it, and no more. -/
theorem teardown_loses (hn : names.Fresh) (hs : s.Reachable names) (identity : WorkloadIdentity) :
    let (result, changes, t) := (teardown identity false).run.run (behaviour names) s
    result = .ok () ∧
      ((∀ app ∈ s.applications, app.displayName ≠ identity.displayName) →
        changes = [.identityAbsent identity.displayName] ∧ t = s) ∧
      ((∃ app ∈ s.applications, app.displayName = identity.displayName) →
        ∃ app, s.Loses identity.displayName app t ∧
          changes.getLast? = some (.applicationDeleted identity.displayName app.id)) := by
  cases hfirst : s.applications.find? (·.displayName = identity.displayName) with
  | none =>
    have hnone : ∀ app ∈ s.applications, app.displayName ≠ identity.displayName := by
      simpa using hfirst
    rw [run_teardown_absent names false identity hfirst]
    refine ⟨rfl, fun _ => ⟨rfl, rfl⟩, ?_⟩
    rintro ⟨app, happ, hname⟩
    exact absurd hname (hnone app happ)
  | some app =>
    obtain ⟨created, hkept⟩ := hs.kept hn
    obtain ⟨changes, hrun⟩ := run_teardown names hfirst
    rw [hrun]
    refine ⟨rfl, fun hnone => ?_, fun _ => ⟨app, hkept.loses_without hfirst, ?_⟩⟩
    · have hname : app.displayName = identity.displayName := by
        simpa using List.find?_some hfirst
      exact absurd hname (hnone app (List.mem_of_find?_eq_some hfirst))
    · exact List.getLast?_concat

namespace Excision

def spec (name subject : String) : CredentialSpec := .basic name "https://oidc.example" subject

/-- Of three applications of one name the first is deleted, which leaves its service principal. The
second has three credentials and a service principal of its own, and the third one credential. -/
def calls : List Call :=
  [.createApplication "payments", .createServicePrincipal "0#payments" [],
    .deleteApplication ⟨"0#payments"⟩, .createApplication "payments",
    .createServicePrincipal "1#payments" [], .createApplication "payments",
    .addCredential ⟨"1#payments"⟩ (spec "gh-main" "main"),
    .addCredential ⟨"1#payments"⟩ (spec "gh-copy" "main"),
    .addCredential ⟨"1#payments"⟩ (spec "gh-tags" "tags"),
    .addCredential ⟨"2#payments"⟩ (spec "gh-main" "main")]

def store : Store := (empty.follow .placed (calls.map (·, false))).2

theorem store_reachable : store.Reachable .placed := Reachable.empty.follow _

def identity : WorkloadIdentity :=
  ⟨"payments", [], [spec "gh-main" "main", spec "gh-main" "main", spec "gh-new" "new"]⟩

end Excision

theorem teardown_loses_namesakes :
    Naming.placed.Fresh ∧ Excision.store.Reachable .placed ∧
    (∃ app ∈ Excision.store.applications, app.displayName = Excision.identity.displayName) ∧
    let (result, changes, t) :=
      (teardown Excision.identity false).run.run (behaviour .placed) Excision.store
    result = .ok () ∧
    (changes.map Change.kind = [.credentialDeleted, .credentialDeleted, .applicationDeleted] ∧
      Excision.store.credentials.length = 4 ∧ t.credentials.map (·.1) = [⟨"2#payments"⟩] ∧
      t.applications.map (·.appId) = ["2#payments"] ∧
      t.principals.map (·.appId) = ["0#payments", "1#payments"]) ∧
    ∃ app, Excision.store.Loses "payments" app t ∧
      changes.getLast? = some (.applicationDeleted "payments" app.id) := by
  have hfound : ∃ app ∈ Excision.store.applications,
      app.displayName = Excision.identity.displayName :=
    ⟨Naming.placed.application "payments" 1, by decide, rfl⟩
  obtain ⟨hok, -, hloses⟩ :=
    teardown_loses Naming.placed_fresh Excision.store_reachable Excision.identity
  exact ⟨Naming.placed_fresh, Excision.store_reachable, hfound, hok, by decide +kernel,
    hloses hfound⟩

end Federation
