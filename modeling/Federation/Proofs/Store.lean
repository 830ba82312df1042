import Mathlib.Data.List.Basic
import Federation.Directory.Store

namespace Federation

namespace Naming

def application (names : Naming) (displayName : String) (n : Nat) : Application :=
  ⟨names.applicationId displayName n, names.appId displayName n, displayName, []⟩

def Makes (names : Naming) (app : Application) : Prop :=
  ∃ n, app = names.application app.displayName n

/-- Identifiers tell apart what is made: applications, principals, and the credentials of one
application. -/
structure Distinct (names : Naming) : Prop where
  applicationId : ∀ a m b n, names.applicationId a m = names.applicationId b n → a = b ∧ m = n
  appId : ∀ a m b n, names.appId a m = names.appId b n → a = b ∧ m = n
  principalId : ∀ a m b n, names.principalId a m = names.principalId b n → a = b ∧ m = n
  credentialId : ∀ owner a m b n, names.credentialId owner a m = names.credentialId owner b n →
    a = b ∧ m = n

def numbered (n : Nat) (text : String) : String := toString n ++ "#" ++ text

theorem numbered_inj {m n : Nat} {a b : String} (h : numbered m a = numbered n b) :
    a = b ∧ m = n := by
  have hmark : ∀ k : Nat, ∀ c ∈ k.repr.toList, (c != '#') = true := by
    intro k c hc
    rw [Nat.toList_repr] at hc
    have hd := Nat.isDigit_of_mem_toDigits (by decide) (by decide) hc
    rw [bne_iff_ne]
    rintro rfl
    exact absurd hd (by decide)
  have hl : m.repr.toList ++ '#' :: a.toList = n.repr.toList ++ '#' :: b.toList := by
    have := congrArg String.toList h
    simpa [numbered] using this
  have ht := congrArg (List.takeWhile (· != '#')) hl
  have hd := congrArg (List.dropWhile (· != '#')) hl
  rw [List.takeWhile_append_of_pos (hmark m), List.takeWhile_append_of_pos (hmark n)] at ht
  rw [List.dropWhile_append_of_pos (hmark m), List.dropWhile_append_of_pos (hmark n)] at hd
  have hdigits : Nat.toDigits 10 m = Nat.toDigits 10 n := by simpa using ht
  refine ⟨String.toList_inj.mp (by simpa using hd), ?_⟩
  rw [← @Nat.ofDigitChars_ten_toDigits m, hdigits, Nat.ofDigitChars_ten_toDigits]

def counted : Naming where
  applicationId displayName n := ⟨numbered n displayName⟩
  appId displayName n := numbered n displayName
  principalId displayName n := ⟨numbered n (displayName.elim "" ("@" ++ ·))⟩
  credentialId _ name n := ⟨numbered n name⟩

theorem counted_distinct : counted.Distinct where
  applicationId _ _ _ _ h := numbered_inj (congrArg ObjectId.text h)
  appId _ _ _ _ h := numbered_inj h
  principalId a m b n h := by
    obtain ⟨he, hn⟩ := numbered_inj (congrArg ObjectId.text h)
    refine ⟨?_, hn⟩
    cases a <;> cases b <;> simp_all [← String.toList_inj]
  credentialId _ _ _ _ _ h := numbered_inj (congrArg ObjectId.text h)

end Naming

namespace Store

variable {names : Naming} {s : Store}

/-- The stores that calls lead to from the empty one. -/
inductive Reachable (names : Naming) : Store → Prop
  | empty : Reachable names Store.empty
  | call {s : Store} (h : Reachable names s) (c : Call) : Reachable names (behaviour names c s).2

/-- Every application was made by the store, and every credential has its application. -/
structure Sound (names : Naming) (s : Store) : Prop where
  made : ∀ app ∈ s.applications, ∃ n < s.minted.count (.application app.displayName),
    app = names.application app.displayName n
  owned : ∀ e ∈ s.credentials, s.hasApplication e.1 = true

theorem sound_empty : Store.empty.Sound names := ⟨by simp [empty], by simp [empty]⟩

theorem hasApplication_iff (id : ObjectId) :
    s.hasApplication id = true ↔ ∃ app ∈ s.applications, app.id = id := by
  simp [hasApplication]

theorem hasApplication_of_mem {app : Application} (h : app ∈ s.applications) :
    s.hasApplication app.id = true :=
  (hasApplication_iff _).mpr ⟨app, h, rfl⟩

theorem Sound.made_append (h : s.Sound names) (m : Minted) {app : Application}
    (ha : app ∈ s.applications) :
    ∃ n < (s.minted ++ [m]).count (.application app.displayName),
      app = names.application app.displayName n := by
  obtain ⟨n, hn, he⟩ := h.made app ha
  refine ⟨n, ?_, he⟩
  rw [List.count_append]
  omega

theorem Sound.createApplication (h : s.Sound names) (displayName : String) :
    (s.createApplication names displayName).2.Sound names := by
  constructor
  · intro app ha
    simp only [Store.createApplication, List.mem_append, List.mem_singleton] at ha
    rcases ha with ha | rfl
    · exact h.made_append _ ha
    · exact ⟨s.minted.count (.application displayName), by simp [Store.createApplication], rfl⟩
  · intro e he
    obtain ⟨app, ha, hid⟩ := (hasApplication_iff _).mp (h.owned e he)
    exact (hasApplication_iff _).mpr ⟨app, List.mem_append_left _ ha, hid⟩

theorem Sound.deleteApplication (h : s.Sound names) (id : ObjectId) :
    (s.deleteApplication id).2.Sound names := by
  unfold Store.deleteApplication
  split
  · constructor
    · intro app ha
      exact h.made app (List.mem_of_mem_filter ha)
    · intro e he
      obtain ⟨hm, hne⟩ := List.mem_filter.mp he
      obtain ⟨app, ha, hid⟩ := (hasApplication_iff _).mp (h.owned e hm)
      have hkept : app ∈ s.applications.filter (·.id ≠ id) :=
        List.mem_filter.mpr ⟨ha, by simpa [hid] using hne⟩
      exact (hasApplication_iff _).mpr ⟨app, hkept, hid⟩
  · exact h

theorem Sound.createServicePrincipal (h : s.Sound names) (appId : String) (tags : List String) :
    (s.createServicePrincipal names appId tags).2.Sound names := by
  unfold Store.createServicePrincipal
  split
  · exact h
  · exact ⟨fun app ha => h.made_append _ ha, h.owned⟩

theorem Sound.deleteServicePrincipal (h : s.Sound names) (id : ObjectId) :
    (s.deleteServicePrincipal id).2.Sound names := by
  unfold Store.deleteServicePrincipal
  split
  · exact ⟨h.made, h.owned⟩
  · exact h

theorem Sound.addCredential (h : s.Sound names) (application : ObjectId) (spec : CredentialSpec) :
    (s.addCredential names application spec).2.Sound names := by
  unfold Store.addCredential
  split
  · exact h
  · rename_i happ
    split
    · exact h
    · refine ⟨fun app ha => h.made_append _ ha, fun e he => ?_⟩
      simp only [List.mem_append, List.mem_singleton] at he
      rcases he with he | rfl
      · exact h.owned e he
      · simpa [hasApplication] using happ

theorem Sound.deleteCredential (h : s.Sound names) (application id : ObjectId) :
    (s.deleteCredential application id).2.Sound names := by
  unfold Store.deleteCredential
  split
  · exact ⟨h.made, fun e he => h.owned e (List.mem_of_mem_filter he)⟩
  · exact h

theorem Sound.call (h : s.Sound names) (c : Call) : (behaviour names c s).2.Sound names := by
  cases c with
  | createServicePrincipal appId tags => exact h.createServicePrincipal appId tags
  | deleteServicePrincipal id => exact h.deleteServicePrincipal id
  | createApplication displayName => exact h.createApplication displayName
  | deleteApplication id => exact h.deleteApplication id
  | addCredential application spec => exact h.addCredential application spec
  | deleteCredential application id => exact h.deleteCredential application id
  | getServicePrincipal _ | getApplication _ | getCredential _ _ _ => exact h

theorem Reachable.sound (h : s.Reachable names) : s.Sound names := by
  induction h with
  | empty => exact sound_empty
  | call _ c ih => exact ih.call c

theorem Sound.credentialsOf_stray (h : s.Sound names) {owner : ObjectId}
    (hf : s.hasApplication owner = false) : s.credentialsOf owner = [] := by
  refine List.filterMap_eq_nil_iff.mpr fun e he => if_neg fun heq => ?_
  rw [← heq, h.owned e he] at hf
  cases hf

theorem Sound.fresh (h : s.Sound names) (hn : names.Distinct) (displayName : String) :
    s.hasApplication (names.applicationId displayName
      (s.minted.count (.application displayName))) = false := by
  by_contra hc
  obtain ⟨app, ha, hid⟩ := (hasApplication_iff _).mp (by simpa using hc)
  obtain ⟨n, hlt, he⟩ := h.made app ha
  rw [he] at hid
  obtain ⟨hname, hcount⟩ := hn.applicationId _ _ _ _ hid
  rw [hname] at hlt
  omega

def credential (names : Naming) (owner : ObjectId) (spec : CredentialSpec) (s : Store) :
    Credential :=
  ⟨names.credentialId owner spec.name (s.minted.count (.credential owner spec.name)), spec.name,
    spec.issuer, spec.subject, spec.audiences, spec.description, []⟩

theorem credentialsOf_append (added : List (ObjectId × Credential)) (minted : List Minted)
    (owner : ObjectId) :
    ({ s with credentials := s.credentials ++ added, minted } : Store).credentialsOf owner =
      s.credentialsOf owner ++
        added.filterMap fun e => if e.1 = owner then some e.2 else none := by
  simp [credentialsOf, List.filterMap_append]

/-- The subject and the issuer are compared one after the other, which comes to comparing both. -/
theorem getCredential_eq (owner : ObjectId) (issuer subject : String) :
    s.getCredential owner issuer subject =
      if s.hasApplication owner then
        match (s.credentialsOf owner).find? (·.answers issuer subject) with
        | some c => .ok c
        | none => .error (.credentialNotFound issuer subject)
      else .error (resourceNotFound owner) := by
  have hf : ((s.credentialsOf owner).filter (·.subject = subject)).find? (·.issuer = issuer) =
      (s.credentialsOf owner).find? (·.answers issuer subject) := by
    rw [List.find?_filter]
    congr 1
    funext c
    simp [Credential.answers, Bool.and_comm, Bool.beq_eq_decide_eq]
  unfold getCredential
  rw [hf]
  cases s.hasApplication owner <;> rfl

theorem addCredential_eq (names : Naming) (owner : ObjectId) (spec : CredentialSpec)
    (h : s.hasApplication owner = true) :
    s.addCredential names owner spec =
      if (s.credentialsOf owner).any (·.name = spec.name) then
        (.error (credentialExists spec.name), s)
      else (.ok (), { s with
        credentials := s.credentials ++ [(owner, s.credential names owner spec)]
        minted := s.minted ++ [.credential owner spec.name] }) := by
  unfold addCredential
  rw [h]
  rfl

@[simp] theorem hasApplication_add (names : Naming) (owner : ObjectId) (spec : CredentialSpec)
    (id : ObjectId) :
    (s.addCredential names owner spec).2.hasApplication id = s.hasApplication id := by
  unfold addCredential
  split
  · rfl
  · split <;> rfl

theorem credentialsOf_add (names : Naming) (owner : ObjectId) (spec : CredentialSpec)
    (h : s.hasApplication owner = true)
    (hn : (s.credentialsOf owner).any (·.name = spec.name) = false) :
    (s.addCredential names owner spec).2.credentialsOf owner =
      s.credentialsOf owner ++ [s.credential names owner spec] := by
  rw [addCredential_eq names owner spec h, hn]
  simp [credentialsOf_append]

theorem credential_answers (names : Naming) (owner : ObjectId) (spec : CredentialSpec) :
    (s.credential names owner spec).answers spec.issuer spec.subject = true := by
  simp [credential, Credential.answers]

theorem getCredential_add (names : Naming) (owner : ObjectId) (spec : CredentialSpec)
    (h : s.hasApplication owner = true)
    (hf : (s.credentialsOf owner).find? (·.answers spec.issuer spec.subject) = none)
    (hn : (s.credentialsOf owner).any (·.name = spec.name) = false) :
    (s.addCredential names owner spec).2.getCredential owner spec.issuer spec.subject =
      .ok (s.credential names owner spec) := by
  rw [getCredential_eq, hasApplication_add, if_pos h, credentialsOf_add names owner spec h hn,
    List.find?_append, hf]
  simp [credential_answers]

theorem deleteServicePrincipal_snd (id : ObjectId) :
    (s.deleteServicePrincipal id).2 = { s with principals := s.principals.filter (·.id ≠ id) } := by
  unfold deleteServicePrincipal
  split
  · rfl
  · rename_i hnone
    have hkeep : s.principals.filter (·.id ≠ id) = s.principals :=
      List.filter_eq_self.mpr (by simpa using hnone)
    rw [hkeep]

theorem Sound.deleteApplication_snd (hs : s.Sound names) (id : ObjectId) :
    (s.deleteApplication id).2 = { s with
      applications := s.applications.filter (·.id ≠ id)
      credentials := s.credentials.filter (·.1 ≠ id) } := by
  unfold Store.deleteApplication
  split
  · rfl
  · rename_i hnone
    have happs : s.applications.filter (·.id ≠ id) = s.applications :=
      List.filter_eq_self.mpr (by simpa [hasApplication] using hnone)
    have hcreds : s.credentials.filter (·.1 ≠ id) = s.credentials := by
      refine List.filter_eq_self.mpr fun e he => decide_eq_true fun heq => ?_
      rw [← heq, hs.owned e he] at hnone
      exact hnone rfl
    rw [happs, hcreds]

theorem deleteCredential_snd (owner id : ObjectId) :
    (s.deleteCredential owner id).2 = { s with
      credentials := s.credentials.filter fun (o, c) => !(o = owner && c.id = id) } := by
  unfold deleteCredential
  split
  · rfl
  · rename_i hnone
    have hkeep : (s.credentials.filter fun (o, c) => !(o = owner && c.id = id)) = s.credentials := by
      refine List.filter_eq_self.mpr fun e he => ?_
      by_contra hne
      obtain ⟨ho, hid⟩ : e.1 = owner ∧ e.2.id = id := by simpa using hne
      have hmem : e.2 ∈ s.credentialsOf owner := List.mem_filterMap.mpr ⟨e, he, if_pos ho⟩
      exact hnone (List.any_eq_true.mpr ⟨e.2, hmem, decide_eq_true hid⟩)
    rw [hkeep]

theorem credentialsOf_deleteApplication (id owner : ObjectId) (apps : List Application) :
    ({ s with
      applications := apps
      credentials := s.credentials.filter (·.1 ≠ id) } : Store).credentialsOf owner =
      if owner = id then [] else s.credentialsOf owner := by
  simp only [credentialsOf, List.filterMap_filter]
  split
  · rename_i he
    subst he
    refine List.filterMap_eq_nil_iff.mpr fun e _ => ?_
    by_cases h : e.1 = owner <;> simp [h]
  · rename_i hne
    congr 1
    funext e
    by_cases h : e.1 = owner
    · simp [h, hne]
    · simp [h]

theorem credentialsOf_deleteCredential (owner id other : ObjectId) :
    ({ s with
      credentials := s.credentials.filter fun (o, c) => !(o = owner && c.id = id) } :
        Store).credentialsOf other =
      if other = owner then (s.credentialsOf owner).filter (·.id ≠ id)
      else s.credentialsOf other := by
  simp only [credentialsOf, List.filterMap_filter]
  split
  · rename_i he
    subst he
    rw [List.filter_filterMap]
    congr 1
    funext e
    by_cases h : e.1 = other
    · by_cases hid : e.2.id = id <;> simp [h, hid, Option.filter_some]
    · simp [h]
  · rename_i hne
    congr 1
    funext e
    by_cases h : e.1 = other
    · simp [h, hne]
    · simp [h]

theorem isCancelled_behaviour {c : Call} {s : Store} {e : DirectoryError}
    (h : (behaviour names c s).1 = .error e) : e.isCancelled = false := by
  cases c with
  | createServicePrincipal appId tags =>
    simp only [behaviour, createServicePrincipal] at h
    split at h <;> cases h
    rfl
  | getServicePrincipal displayName =>
    simp only [behaviour, getServicePrincipal] at h
    split at h <;> cases h
    rfl
  | deleteServicePrincipal id =>
    simp only [behaviour, deleteServicePrincipal] at h
    split at h <;> cases h
    rfl
  | createApplication displayName => cases h
  | getApplication displayName =>
    simp only [behaviour, getApplication] at h
    split at h <;> cases h
    rfl
  | deleteApplication id =>
    simp only [behaviour, deleteApplication] at h
    split at h <;> cases h
    rfl
  | addCredential owner spec =>
    simp only [behaviour, addCredential] at h
    split at h
    · cases h
      rfl
    · split at h <;> cases h
      rfl
  | getCredential owner issuer subject =>
    simp only [behaviour, getCredential] at h
    split at h
    · cases h
      rfl
    · split at h <;> cases h
      rfl
  | deleteCredential owner id =>
    simp only [behaviour, deleteCredential] at h
    split at h <;> cases h
    rfl

end Store

end Federation
