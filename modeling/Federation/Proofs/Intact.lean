import Federation.Proofs.Cut
import Federation.Proofs.Effect
import Federation.Proofs.Excision

namespace Federation

inductive OneGone {α ι : Type} (key : α → ι) (id : ι) : List α → List α → Prop
  | intro {before after : List α} {x : α} (hx : key x = id)
      (hothers : ∀ y ∈ before ++ after, key y ≠ id) :
    OneGone key id (before ++ x :: after) (before ++ after)

theorem oneGone_filter {α ι : Type} [DecidableEq ι] {key : α → ι} {id : ι} {xs : List α}
    (hkeys : (xs.map key).Nodup) (hthere : ∃ x ∈ xs, key x = id) :
    OneGone key id xs (xs.filter (key · ≠ id)) := by
  obtain ⟨x, hmem, hx⟩ := hthere
  obtain ⟨before, after, rfl⟩ := List.append_of_mem hmem
  have hothers : ∀ y ∈ before ++ after, key y ≠ id := by
    intro y hy he
    rw [List.map_append, List.map_cons, List.nodup_middle, List.nodup_cons] at hkeys
    apply hkeys.1
    rw [hx, ← he, ← List.map_append]
    exact List.mem_map_of_mem hy
  have hrest : (before ++ x :: after).filter (key · ≠ id) = before ++ after := by
    rw [List.filter_append, List.filter_cons_of_neg (by simp [hx]), ← List.filter_append,
      List.filter_eq_self]
    simpa using hothers
  rw [hrest]
  exact .intro hx hothers

/-- What a deletion takes from a store: one object of the identifier, and with an application all
its credentials. -/
def Call.Takes : Call → Store → Store → Prop
  | .deleteApplication id, s, t =>
    OneGone Application.id id s.applications t.applications ∧ t.principals = s.principals ∧
      ∀ owner, t.credentialsOf owner = if owner = id then [] else s.credentialsOf owner
  | .deleteServicePrincipal id, s, t =>
    OneGone ServicePrincipal.id id s.principals t.principals ∧ t.applications = s.applications ∧
      ∀ owner, t.credentialsOf owner = s.credentialsOf owner
  | .deleteCredential owner id, s, t =>
    OneGone Credential.id id (s.credentialsOf owner) (t.credentialsOf owner) ∧
      t.applications = s.applications ∧ t.principals = s.principals ∧
      ∀ other, other ≠ owner → t.credentialsOf other = s.credentialsOf other
  | _, _, _ => False

theorem Store.Effect.takes {names : Naming} {s t : Store} {created : List Application} {c : Call}
    {a : c.Answer} (h : s.Effect names c (.ok a) t) (hkept : s.Kept names created)
    (hdelete : c.isDelete = true) : c.Takes s t := by
  cases h with
  | deleteServicePrincipal hthere =>
    exact ⟨oneGone_filter hkept.principalIds.nodup hthere, rfl, fun _ => rfl⟩
  | @deleteApplication id hthere =>
    refine ⟨oneGone_filter hkept.consistent.applicationIds hthere, rfl, fun owner => ?_⟩
    exact credentialsOf_deleteApplication id owner _
  | @deleteCredential owner id hthere =>
    have hleft := fun other => credentialsOf_deleteCredential (s := s) owner id other
    refine ⟨?_, rfl, rfl, fun other hne => ?_⟩
    · rw [hleft, if_pos rfl]
      exact oneGone_filter (hkept.credentialsOf_ids owner) hthere
    · rw [hleft, if_neg hne]
  | @looked c hc =>
    -- No lookup is a deletion.
    cases c <;> cases hc <;> cases hdelete
  | createApplication | createServicePrincipal | addCredential => cases hdelete

open Store

/-- With a live token or a cancelled one: where a call fails, all is as it was, and a deletion that
gets through takes one object, and with an application its credentials. -/
theorem perform_all_or_nothing {names : Naming} (hn : names.Fresh) {r : RehearsedStore}
    (hr : r.store.Reachable names) (c : Call) :
    let (outcome, r') := r.perform names c
    (∀ e, outcome = .error e → r'.store = r.store) ∧
      (c.isDelete = true → ∀ a, outcome = .ok a → c.Takes r.store r'.store) := by
  obtain ⟨created, hkept⟩ := hr.kept hn
  cases hcancelled : r.cancelled with
  | true =>
    rw [RehearsedStore.perform_dead hcancelled]
    refine ⟨fun _ _ => rfl, fun _ a ha => ?_⟩
    cases ha
  | false =>
    rw [RehearsedStore.perform_live hcancelled]
    have heffect := effect names c r.store
    refine ⟨fun e he => ?_, fun hdelete a ha => ?_⟩
    · rw [he] at heffect
      exact heffect.unchanged
    · rw [ha] at heffect
      exact heffect.takes hkept hdelete

theorem perform_all_or_nothing_cascade :
    let c : Call := .deleteApplication ⟨"1#payments"⟩
    let start : RehearsedStore := ⟨Excision.store, false, [], []⟩
    let (first, r) := start.perform .placed c
    let (second, r') := r.perform .placed c
    Naming.placed.Fresh ∧ start.store.Reachable .placed ∧ r.store.Reachable .placed ∧
    c.isDelete = true ∧ first = .ok () ∧ second = .error (resourceNotFound ⟨"1#payments"⟩) ∧
    (start.store.credentials.length = 4 ∧ r.store.credentials.map (·.1) = [⟨"2#payments"⟩]) ∧
    c.Takes start.store r.store ∧ r'.store = r.store := by
  intro c start
  have hstart : start.store.Reachable .placed := Excision.store_reachable
  have hr : (start.perform .placed c).2.store.Reachable .placed := hstart.call c
  have hfirst : (start.perform .placed c).1 = .ok () := by decide +kernel
  have hsecond : ((start.perform .placed c).2.perform .placed c).1 =
      .error (resourceNotFound ⟨"1#payments"⟩) := by decide +kernel
  obtain ⟨-, htakes⟩ := perform_all_or_nothing Naming.placed_fresh hstart c
  obtain ⟨hsame, -⟩ := perform_all_or_nothing Naming.placed_fresh hr c
  exact ⟨Naming.placed_fresh, hstart, hr, rfl, hfirst, hsecond, by decide +kernel,
    htakes rfl () hfirst, hsame _ hsecond⟩

end Federation
