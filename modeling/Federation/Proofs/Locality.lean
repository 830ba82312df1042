import Federation.Proofs.Provenance

namespace Federation

inductive Minted.Under (names : Naming) (P : String → Bool) : Minted → Prop
  | application {a : String} (h : P a = true) : Under names P (.application a)
  | principal {a : String} (h : P a = true) : Under names P (.principal (some a))
  | credential {a : String} (h : P a = true) (n : Nat) (name : String) :
      Under names P (.credential (names.applicationId a n) name)

def Call.About (names : Naming) (a : String) : Call → Prop
  | .getApplication displayName | .createApplication displayName
  | .getServicePrincipal displayName => displayName = a
  | .createServicePrincipal appId _ => ∃ n, appId = names.appId a n
  | .deleteServicePrincipal id => ∃ n, id = names.principalId (some a) n
  | .deleteApplication owner | .addCredential owner _ | .getCredential owner _ _
  | .deleteCredential owner _ => ∃ n, owner = names.applicationId a n

namespace Store

variable {names : Naming} {P : String → Bool} {s t u : Store} {a : String}

/-- Two stores have the same under the display names of a kind, and made as much under them. -/
structure Alike (names : Naming) (P : String → Bool) (s t : Store) : Prop where
  applications : s.applications.filter (P ·.displayName) = t.applications.filter (P ·.displayName)
  principals : s.principals.filter (·.displayName.any P) = t.principals.filter (·.displayName.any P)
  credentials : ∀ a n, P a = true →
    s.credentialsOf (names.applicationId a n) = t.credentialsOf (names.applicationId a n)
  minted : ∀ m : Minted, m.Under names P → s.minted.count m = t.minted.count m

theorem Alike.refl (s : Store) : Alike names P s s := ⟨rfl, rfl, fun _ _ _ => rfl, fun _ _ => rfl⟩

theorem Alike.symm (h : Alike names P s t) : Alike names P t s :=
  ⟨h.applications.symm, h.principals.symm, fun a n ha => (h.credentials a n ha).symm,
    fun m hm => (h.minted m hm).symm⟩

theorem Alike.trans (h : Alike names P s t) (h' : Alike names P t u) : Alike names P s u :=
  ⟨h.applications.trans h'.applications, h.principals.trans h'.principals,
    fun a n ha => (h.credentials a n ha).trans (h'.credentials a n ha),
    fun m hm => (h.minted m hm).trans (h'.minted m hm)⟩

theorem filter_filter_of_imp {α : Type} {p q : α → Bool} {l : List α}
    (h : ∀ x ∈ l, q x = true → p x = true) : (l.filter p).filter q = l.filter q := by
  rw [List.filter_filter]
  refine List.filter_congr fun x hx => ?_
  cases hq : q x with
  | false => rfl
  | true => simp [h x hx hq]

theorem find?_eq_of_filter {α : Type} {p q : α → Bool} {l l' : List α}
    (h : l.filter p = l'.filter p) (hl : ∀ x ∈ l, q x = true → p x = true)
    (hl' : ∀ x ∈ l', q x = true → p x = true) : l.find? q = l'.find? q := by
  rw [← List.head?_filter, ← List.head?_filter, ← filter_filter_of_imp hl, h,
    filter_filter_of_imp hl']

theorem any_eq_of_filter {α : Type} {p q : α → Bool} {l l' : List α}
    (h : l.filter p = l'.filter p) (hl : ∀ x ∈ l, q x = true → p x = true)
    (hl' : ∀ x ∈ l', q x = true → p x = true) : l.any q = l'.any q := by
  have hany : ∀ l : List α, l.any q = !(l.filter q).isEmpty := fun l => by
    rw [Bool.eq_iff_iff]
    simp
  rw [hany, hany, ← filter_filter_of_imp hl, h, filter_filter_of_imp hl']

theorem filter_filter_eq {α : Type} {p : α → Bool} {l l' : List α} (h : l.filter p = l'.filter p)
    (q : α → Bool) : (l.filter q).filter p = (l'.filter q).filter p := by
  rw [List.filter_comm, h, List.filter_comm]

theorem Alike.hasApplication (h : Alike names P s t) (hn : names.Distinct) (hs : s.Sound names)
    (ht : t.Sound names) (ha : P a = true) (n : Nat) :
    s.hasApplication (names.applicationId a n) = t.hasApplication (names.applicationId a n) := by
  refine any_eq_of_filter h.applications (fun app hm hid => ?_) fun app hm hid => ?_
  · rwa [hs.displayName_of_id hn hm (by simpa using hid)]
  · rwa [ht.displayName_of_id hn hm (by simpa using hid)]

theorem Alike.append_minted (h : Alike names P s t) (x : Minted) (m : Minted)
    (hm : m.Under names P) : (s.minted ++ [x]).count m = (t.minted ++ [x]).count m := by
  rw [List.count_append, List.count_append, h.minted m hm]

theorem Alike.createApplication (h : Alike names P s t) (ha : P a = true) :
    (s.createApplication names a).1 = (t.createApplication names a).1 ∧
      Alike names P (s.createApplication names a).2 (t.createApplication names a).2 := by
  have hcount := h.minted _ (.application ha)
  refine ⟨by simp only [Store.createApplication, hcount], ?_, h.principals, h.credentials, ?_⟩
  · simp only [Store.createApplication, List.filter_append, h.applications, hcount]
  · exact fun m hm => h.append_minted _ m hm

theorem Alike.createServicePrincipal (h : Alike names P s t) (hn : names.Distinct)
    (hs : s.Sound names) (ht : t.Sound names) (ha : P a = true) (n : Nat) (tags : List String) :
    (s.createServicePrincipal names (names.appId a n) tags).1 =
        (t.createServicePrincipal names (names.appId a n) tags).1 ∧
      Alike names P (s.createServicePrincipal names (names.appId a n) tags).2
        (t.createServicePrincipal names (names.appId a n) tags).2 := by
  have hfind : s.applications.find? (·.appId = names.appId a n) =
      t.applications.find? (·.appId = names.appId a n) := by
    refine find?_eq_of_filter h.applications (fun app hm hid => ?_) fun app hm hid => ?_
    · rwa [hs.displayName_of_appId hn hm (by simpa using hid)]
    · rwa [ht.displayName_of_appId hn hm (by simpa using hid)]
  unfold Store.createServicePrincipal
  rw [← hfind]
  cases hf : s.applications.find? (·.appId = names.appId a n) with
  | none => exact ⟨rfl, h⟩
  | some app =>
    have hname : app.displayName = a :=
      hs.displayName_of_appId hn (List.mem_of_find?_eq_some hf) (by simpa using List.find?_some hf)
    have hcount := h.minted _ (.principal (hname ▸ ha : P app.displayName = true))
    refine ⟨by simp only [hcount], h.applications, ?_, h.credentials, ?_⟩
    · simp only [List.filter_append, h.principals, hcount]
    · exact fun m hm => h.append_minted _ m hm

theorem Alike.deleteServicePrincipal (h : Alike names P s t) (hn : names.Distinct)
    (hs : s.Traced names) (ht : t.Traced names) (ha : P a = true) (n : Nat) :
    (s.deleteServicePrincipal (names.principalId (some a) n)).1 =
        (t.deleteServicePrincipal (names.principalId (some a) n)).1 ∧
      Alike names P (s.deleteServicePrincipal (names.principalId (some a) n)).2
        (t.deleteServicePrincipal (names.principalId (some a) n)).2 := by
  have hany : s.principals.any (·.id = names.principalId (some a) n) =
      t.principals.any (·.id = names.principalId (some a) n) := by
    refine any_eq_of_filter h.principals (fun p hm hid => ?_) fun p hm hid => ?_
    · rwa [hs.displayName_of_id hn hm (by simpa using hid)]
    · rwa [ht.displayName_of_id hn hm (by simpa using hid)]
  rw [deleteServicePrincipal_snd, deleteServicePrincipal_snd]
  refine ⟨?_, h.applications, filter_filter_eq h.principals _, h.credentials, h.minted⟩
  unfold Store.deleteServicePrincipal
  rw [hany]
  split <;> rfl

theorem Alike.deleteApplication (h : Alike names P s t) (hn : names.Distinct)
    (hs : s.Sound names) (ht : t.Sound names) (ha : P a = true) (n : Nat) :
    (s.deleteApplication (names.applicationId a n)).1 =
        (t.deleteApplication (names.applicationId a n)).1 ∧
      Alike names P (s.deleteApplication (names.applicationId a n)).2
        (t.deleteApplication (names.applicationId a n)).2 := by
  have hhas := h.hasApplication hn hs ht ha n
  rw [hs.deleteApplication_snd, ht.deleteApplication_snd]
  refine ⟨?_, filter_filter_eq h.applications _, h.principals, fun b m hb => ?_, h.minted⟩
  · unfold Store.deleteApplication
    rw [hhas]
    split <;> rfl
  · rw [credentialsOf_deleteApplication, credentialsOf_deleteApplication, h.credentials b m hb]

theorem Alike.deleteCredential (h : Alike names P s t) (ha : P a = true) (n : Nat)
    (id : ObjectId) :
    (s.deleteCredential (names.applicationId a n) id).1 =
        (t.deleteCredential (names.applicationId a n) id).1 ∧
      Alike names P (s.deleteCredential (names.applicationId a n) id).2
        (t.deleteCredential (names.applicationId a n) id).2 := by
  have hcreds := h.credentials a n ha
  rw [deleteCredential_snd, deleteCredential_snd]
  refine ⟨?_, h.applications, h.principals, fun b m hb => ?_, h.minted⟩
  · unfold Store.deleteCredential
    rw [hcreds]
    split <;> rfl
  · rw [credentialsOf_deleteCredential, credentialsOf_deleteCredential, hcreds,
      h.credentials b m hb]

theorem Alike.addCredential (h : Alike names P s t) (hn : names.Distinct) (hs : s.Sound names)
    (ht : t.Sound names) (ha : P a = true) (n : Nat) (spec : CredentialSpec) :
    (s.addCredential names (names.applicationId a n) spec).1 =
        (t.addCredential names (names.applicationId a n) spec).1 ∧
      Alike names P (s.addCredential names (names.applicationId a n) spec).2
        (t.addCredential names (names.applicationId a n) spec).2 := by
  have hcount := h.minted _ (.credential ha n spec.name)
  unfold Store.addCredential
  rw [h.hasApplication hn hs ht ha n, h.credentials a n ha, hcount]
  split
  · exact ⟨rfl, h⟩
  · split
    · exact ⟨rfl, h⟩
    · refine ⟨rfl, h.applications, h.principals, fun b m hb => ?_, fun m hm => ?_⟩
      · rw [credentialsOf_append, credentialsOf_append, h.credentials b m hb]
      · exact h.append_minted _ m hm

theorem Alike.getCredential (h : Alike names P s t) (hn : names.Distinct) (hs : s.Sound names)
    (ht : t.Sound names) (ha : P a = true) (n : Nat) (issuer subject : String) :
    s.getCredential (names.applicationId a n) issuer subject =
      t.getCredential (names.applicationId a n) issuer subject := by
  rw [getCredential_eq, getCredential_eq, h.hasApplication hn hs ht ha n, h.credentials a n ha]

/-- A call about a name of the kind comes to the same in stores that are alike, and they stay
alike. -/
theorem Alike.call (h : Alike names P s t) (hn : names.Distinct) (hs : s.Traced names)
    (ht : t.Traced names) (ha : P a = true) {c : Call} (hc : c.About names a) :
    (behaviour names c s).1 = (behaviour names c t).1 ∧
      Alike names P (behaviour names c s).2 (behaviour names c t).2 := by
  cases c with
  | getApplication displayName =>
    subst hc
    refine ⟨?_, h⟩
    simp only [behaviour, getApplication]
    rw [find?_eq_of_filter h.applications (q := (·.displayName = displayName))
      (by simpa using fun x _ hx => hx ▸ ha) (by simpa using fun x _ hx => hx ▸ ha)]
  | getServicePrincipal displayName =>
    subst hc
    refine ⟨?_, h⟩
    simp only [behaviour, getServicePrincipal]
    rw [find?_eq_of_filter h.principals (q := (·.displayName = some displayName))
      (fun p _ hp => by simpa [of_decide_eq_true hp] using ha)
      (fun p _ hp => by simpa [of_decide_eq_true hp] using ha)]
  | createApplication displayName =>
    subst hc
    exact h.createApplication ha
  | createServicePrincipal appId tags =>
    obtain ⟨n, rfl⟩ := hc
    exact h.createServicePrincipal hn hs.toSound ht.toSound ha n tags
  | deleteServicePrincipal id =>
    obtain ⟨n, rfl⟩ := hc
    exact h.deleteServicePrincipal hn hs ht ha n
  | deleteApplication id =>
    obtain ⟨n, rfl⟩ := hc
    exact h.deleteApplication hn hs.toSound ht.toSound ha n
  | addCredential owner spec =>
    obtain ⟨n, rfl⟩ := hc
    exact h.addCredential hn hs.toSound ht.toSound ha n spec
  | getCredential owner issuer subject =>
    obtain ⟨n, rfl⟩ := hc
    exact ⟨h.getCredential hn hs.toSound ht.toSound ha n issuer subject, h⟩
  | deleteCredential owner id =>
    obtain ⟨n, rfl⟩ := hc
    exact h.deleteCredential ha n id

theorem Under.ne {x m : Minted} (hn : names.Distinct) (hx : x.Under names (· == a))
    (ha : P a = false) (hm : m.Under names P) : x ≠ m := by
  rintro rfl
  cases hx with
  | application hb | principal hb =>
    rw [beq_iff_eq.mp hb] at hm
    cases hm with
    | _ hp =>
      rw [ha] at hp
      cases hp
  | credential hb n name =>
    rw [beq_iff_eq.mp hb] at hm
    generalize ho : names.applicationId a n = owner at hm
    cases hm with
    | @credential b hp m name =>
      obtain ⟨rfl, -⟩ := hn.applicationId _ _ _ _ ho
      rw [ha] at hp
      cases hp

theorem count_append_other (hn : names.Distinct) {x m : Minted} (hx : x.Under names (· == a))
    (ha : P a = false) (hm : m.Under names P) : (s.minted ++ [x]).count m = s.minted.count m := by
  simp [List.count_append, Under.ne hn hx ha hm]

theorem applicationId_ne (hn : names.Distinct) {b : String} (hb : P b = true) (ha : P a = false)
    {m n : Nat} : names.applicationId b m ≠ names.applicationId a n := by
  intro he
  obtain ⟨rfl, -⟩ := hn.applicationId _ _ _ _ he
  rw [ha] at hb
  cases hb

/-- A call about a name of another kind changes nothing under the names of the kind. -/
theorem alike_call (hn : names.Distinct) (hs : s.Traced names) (ha : P a = false) {c : Call}
    (hc : c.About names a) : Alike names P (behaviour names c s).2 s := by
  cases c with
  | getApplication _ | getServicePrincipal _ | getCredential _ _ _ => exact .refl s
  | createApplication displayName =>
    subst hc
    refine ⟨?_, rfl, fun _ _ _ => rfl, fun m hm => ?_⟩
    · simp [behaviour, createApplication, ha]
    · exact count_append_other hn (.application (beq_self_eq_true _)) ha hm
  | createServicePrincipal appId tags =>
    obtain ⟨n, rfl⟩ := hc
    simp only [behaviour, createServicePrincipal]
    cases hf : s.applications.find? (·.appId = names.appId a n) with
    | none => exact .refl s
    | some app =>
      have hname : app.displayName = a := hs.toSound.displayName_of_appId hn
        (List.mem_of_find?_eq_some hf) (by simpa using List.find?_some hf)
      refine ⟨rfl, ?_, fun _ _ _ => rfl, fun m hm => ?_⟩
      · simp [hname, ha]
      · exact count_append_other hn (.principal (beq_iff_eq.mpr hname)) ha hm
  -- What a deletion hits goes by the name of its identifier, so all of the kind stay.
  | deleteServicePrincipal id =>
    obtain ⟨n, rfl⟩ := hc
    change Alike names P (s.deleteServicePrincipal _).2 s
    rw [deleteServicePrincipal_snd]
    refine ⟨rfl, filter_filter_of_imp fun p hp hk => decide_eq_true fun hid => ?_,
      fun _ _ _ => rfl, fun _ _ => rfl⟩
    rw [hs.displayName_of_id hn hp hid, Option.any_some, ha] at hk
    cases hk
  | deleteApplication id =>
    obtain ⟨n, rfl⟩ := hc
    change Alike names P (s.deleteApplication _).2 s
    rw [hs.deleteApplication_snd]
    refine ⟨filter_filter_of_imp fun app happ hk => decide_eq_true fun hid => ?_, rfl,
      fun b m hb => ?_, fun _ _ => rfl⟩
    · rw [hs.toSound.displayName_of_id hn happ hid, ha] at hk
      cases hk
    · rw [credentialsOf_deleteApplication, if_neg (applicationId_ne hn hb ha)]
  | addCredential owner spec =>
    obtain ⟨n, rfl⟩ := hc
    simp only [behaviour, addCredential]
    split
    · exact .refl s
    · split
      · exact .refl s
      · refine ⟨rfl, rfl, fun b m hb => ?_, fun m hm => ?_⟩
        · have hne : names.applicationId a n ≠ names.applicationId b m :=
            (applicationId_ne hn hb ha).symm
          simp [credentialsOf_append, hne]
        · exact count_append_other hn (.credential (by simp) n _) ha hm
  | deleteCredential owner id =>
    obtain ⟨n, rfl⟩ := hc
    change Alike names P (s.deleteCredential _ id).2 s
    rw [deleteCredential_snd]
    refine ⟨rfl, rfl, fun b m hb => ?_, fun _ _ => rfl⟩
    rw [credentialsOf_deleteCredential, if_neg (applicationId_ne hn hb ha)]

end Store

end Federation
