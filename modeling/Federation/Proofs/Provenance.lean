import Federation.Proofs.Store

namespace Federation.Store

variable {names : Naming} {s : Store}

/-- The store is sound, and it made every principal for an application of the principal's name. -/
structure Traced (names : Naming) (s : Store) : Prop extends Sound names s where
  named : ∀ p ∈ s.principals, ∃ a m n, p.displayName = some a ∧ p.appId = names.appId a m ∧
    p.id = names.principalId (some a) n

theorem traced_empty : Store.empty.Traced names := ⟨sound_empty, by simp [empty]⟩

theorem Traced.createServicePrincipal (h : s.Traced names) (appId : String) (tags : List String) :
    (s.createServicePrincipal names appId tags).2.Traced names := by
  refine ⟨h.toSound.createServicePrincipal appId tags, fun p hp => ?_⟩
  unfold Store.createServicePrincipal at hp
  cases hf : s.applications.find? (·.appId = appId) with
  | none =>
    rw [hf] at hp
    exact h.named p hp
  | some app =>
    rw [hf] at hp
    obtain hp | hp := List.mem_append.mp hp
    · exact h.named p hp
    · obtain ⟨m, -, hm⟩ := h.made app (List.mem_of_find?_eq_some hf)
      have hid : app.appId = appId := by simpa using List.find?_some hf
      rw [List.mem_singleton.mp hp]
      exact ⟨app.displayName, m, _, rfl, by rw [← hid]; exact congrArg Application.appId hm, rfl⟩

theorem Traced.deleteServicePrincipal (h : s.Traced names) (id : ObjectId) :
    (s.deleteServicePrincipal id).2.Traced names := by
  refine ⟨h.toSound.deleteServicePrincipal id, fun p hp => ?_⟩
  unfold Store.deleteServicePrincipal at hp
  split at hp
  · exact h.named p (List.mem_of_mem_filter hp)
  · exact h.named p hp

theorem principals_call {c : Call} (hcreate : ∀ appId tags, c ≠ .createServicePrincipal appId tags)
    (hdelete : ∀ id, c ≠ .deleteServicePrincipal id) :
    (behaviour names c s).2.principals = s.principals := by
  cases c with
  | createServicePrincipal appId tags => exact absurd rfl (hcreate appId tags)
  | deleteServicePrincipal id => exact absurd rfl (hdelete id)
  | getServicePrincipal _ | createApplication _ | getApplication _ | getCredential _ _ _ => rfl
  | deleteApplication id =>
    simp only [behaviour, Store.deleteApplication]
    split <;> rfl
  | addCredential owner spec =>
    simp only [behaviour, Store.addCredential]
    split
    · rfl
    · split <;> rfl
  | deleteCredential owner id =>
    simp only [behaviour, Store.deleteCredential]
    split <;> rfl

theorem Traced.call (h : s.Traced names) (c : Call) : (behaviour names c s).2.Traced names := by
  cases c with
  | createServicePrincipal appId tags => exact h.createServicePrincipal appId tags
  | deleteServicePrincipal id => exact h.deleteServicePrincipal id
  | _ =>
    refine ⟨h.toSound.call _, fun p hp => h.named p ?_⟩
    rwa [principals_call (by nofun) (by nofun)] at hp

theorem Reachable.traced (h : s.Reachable names) : s.Traced names := by
  induction h with
  | empty => exact traced_empty
  | call _ c ih => exact ih.call c

theorem Sound.displayName_of_id (h : s.Sound names) (hn : names.Distinct) {app : Application}
    (ha : app ∈ s.applications) {a : String} {n : Nat}
    (hid : app.id = names.applicationId a n) : app.displayName = a := by
  obtain ⟨m, -, he⟩ := h.made app ha
  rw [he] at hid
  exact (hn.applicationId _ _ _ _ hid).1

theorem Sound.displayName_of_appId (h : s.Sound names) (hn : names.Distinct) {app : Application}
    (ha : app ∈ s.applications) {a : String} {n : Nat}
    (hid : app.appId = names.appId a n) : app.displayName = a := by
  obtain ⟨m, -, he⟩ := h.made app ha
  rw [he] at hid
  exact (hn.appId _ _ _ _ hid).1

theorem Traced.displayName_of_id (h : s.Traced names) (hn : names.Distinct) {p : ServicePrincipal}
    (hp : p ∈ s.principals) {a : String} {n : Nat}
    (hid : p.id = names.principalId (some a) n) : p.displayName = some a := by
  obtain ⟨b, m, k, hname, -, he⟩ := h.named p hp
  rw [he] at hid
  rw [hname, (hn.principalId _ _ _ _ hid).1]

theorem Sound.credentialsOf_congr {t : Store} (hs : s.Sound names) (ht : t.Sound names)
    (h : ∀ a n, s.credentialsOf (names.applicationId a n) =
      t.credentialsOf (names.applicationId a n)) (owner : ObjectId) :
    s.credentialsOf owner = t.credentialsOf owner := by
  have howner : ∀ u : Store, u.Sound names → u.hasApplication owner = true →
      ∃ a n, owner = names.applicationId a n := by
    intro u hu happ
    obtain ⟨app, ha, rfl⟩ := (hasApplication_iff owner).mp happ
    obtain ⟨n, -, he⟩ := hu.made app ha
    exact ⟨_, n, congrArg Application.id he⟩
  cases hown : s.hasApplication owner with
  | true =>
    obtain ⟨a, n, rfl⟩ := howner s hs hown
    exact h a n
  | false =>
    cases hown' : t.hasApplication owner with
    | true =>
      obtain ⟨a, n, rfl⟩ := howner t ht hown'
      exact h a n
    | false => rw [hs.credentialsOf_stray hown, ht.credentialsOf_stray hown']

end Federation.Store
