import Federation.Proofs.Store
import Federation.Reconcile.Ensure

namespace Federation

/-- What can be looked up, and is to be there once. -/
inductive Aim
  | application (displayName : String)
  | principal (displayName : String)
  | credential (owner : ObjectId) (issuer subject : String)
  deriving DecidableEq

namespace Aim

def key : Aim → String
  | .application displayName => applicationKey displayName
  | .principal displayName => principalKey displayName
  | .credential owner issuer subject => credentialKey owner issuer subject

def ids : Aim → Store → List ObjectId
  | .application displayName, s =>
    (s.applications.filter (·.displayName = displayName)).map (·.id)
  | .principal displayName, s =>
    (s.principals.filter (·.displayName = some displayName)).map (·.id)
  | .credential owner issuer subject, s =>
    ((s.credentialsOf owner).filter (·.answers issuer subject)).map (·.id)

end Aim

namespace Store

variable {names : Naming} {s : Store}

/-- What a call creates, and under which object id. -/
def creation (names : Naming) : Call → Store → Option (Aim × ObjectId)
  | .createApplication displayName, s =>
    some (.application displayName,
      names.applicationId displayName (s.minted.count (.application displayName)))
  | .createServicePrincipal appId _, s =>
    (s.applications.find? (·.appId = appId)).map fun app =>
      (.principal app.displayName, names.principalId (some app.displayName)
        (s.minted.count (.principal (some app.displayName))))
  | .addCredential owner spec, s =>
    if s.hasApplication owner = true ∧ (s.credentialsOf owner).any (·.name = spec.name) = false then
      some (.credential owner spec.issuer spec.subject, (s.credential names owner spec).id)
    else none
  | _, _ => none

def added (aim : Aim) : Option (Aim × ObjectId) → List ObjectId
  | some (made, id) => if made = aim then [id] else []
  | none => []

theorem creation_delete {c : Call} (h : c.isDelete = true) : creation names c s = none := by
  cases c with
  | deleteServicePrincipal _ | deleteApplication _ | deleteCredential _ _ => rfl
  | _ => simp [Call.isDelete] at h

theorem ids_createApplication (displayName : String) (aim : Aim) :
    aim.ids (s.createApplication names displayName).2 =
      aim.ids s ++ added aim (creation names (.createApplication displayName) s) := by
  cases aim with
  | application other =>
    by_cases h : displayName = other
    · simp [Aim.ids, createApplication, creation, added, h]
    · simp [Aim.ids, createApplication, creation, added, h]
  | principal other => simp [Aim.ids, createApplication, creation, added]
  | credential owner issuer subject =>
    simp [Aim.ids, createApplication, creation, added, credentialsOf]

theorem ids_createServicePrincipal (appId : String) (tags : List String) (aim : Aim) :
    aim.ids (s.createServicePrincipal names appId tags).2 =
      aim.ids s ++ added aim (creation names (.createServicePrincipal appId tags) s) := by
  cases hf : s.applications.find? (·.appId = appId) with
  | none => simp [createServicePrincipal, creation, added, hf]
  | some app =>
    cases aim with
    | application other => simp [Aim.ids, createServicePrincipal, creation, added, hf]
    | principal other =>
      by_cases h : app.displayName = other
      · simp [Aim.ids, createServicePrincipal, creation, added, hf, h]
      · simp [Aim.ids, createServicePrincipal, creation, added, hf, h]
    | credential owner issuer subject =>
      simp [Aim.ids, createServicePrincipal, creation, added, hf, credentialsOf]

theorem credential_answers_iff (names : Naming) (s : Store) (owner : ObjectId)
    (spec : CredentialSpec) (issuer subject : String) :
    (s.credential names owner spec).answers issuer subject = true ↔
      spec.issuer = issuer ∧ spec.subject = subject := by
  simp [credential, Credential.answers]

theorem ids_addCredential (owner : ObjectId) (spec : CredentialSpec) (aim : Aim) :
    aim.ids (s.addCredential names owner spec).2 =
      aim.ids s ++ added aim (creation names (.addCredential owner spec) s) := by
  cases ha : s.hasApplication owner with
  | false => simp [addCredential, creation, added, ha]
  | true =>
    rw [addCredential_eq names owner spec ha]
    cases hn : (s.credentialsOf owner).any (·.name = spec.name) with
    | true => simp only [creation, ha, hn, added, ↓reduceIte]; simp
    | false =>
      have hc : creation names (.addCredential owner spec) s =
          some (.credential owner spec.issuer spec.subject, (s.credential names owner spec).id) :=
        if_pos ⟨ha, hn⟩
      rw [hc, if_neg Bool.false_ne_true]
      cases aim with
      | application other => simp [Aim.ids, added]
      | principal other => simp [Aim.ids, added]
      | credential other issuer subject =>
        have hans := credential_answers_iff names s owner spec issuer subject
        dsimp only [Aim.ids, added]
        rw [credentialsOf_append]
        by_cases ho : owner = other
        · subst ho
          by_cases hs : spec.issuer = issuer ∧ spec.subject = subject
          · simp [hs, hans.mpr hs]
          · simp [hs, mt hans.mp hs]
        · simp [ho]

theorem addCredential_cases (names : Naming) (s : Store) (owner : ObjectId)
    (spec : CredentialSpec) :
    (∃ e, s.addCredential names owner spec = (.error e, s) ∧
      creation names (.addCredential owner spec) s = none) ∨
    ((s.addCredential names owner spec).1 = .ok () ∧
      (s.addCredential names owner spec).2.credentialsOf owner =
        s.credentialsOf owner ++ [s.credential names owner spec] ∧
      creation names (.addCredential owner spec) s =
        some (.credential owner spec.issuer spec.subject, (s.credential names owner spec).id)) := by
  cases ha : s.hasApplication owner with
  | false =>
    exact .inl ⟨resourceNotFound owner, by simp [addCredential, ha], by simp [creation, ha]⟩
  | true =>
    cases hn : (s.credentialsOf owner).any (·.name = spec.name) with
    | true =>
      refine .inl ⟨credentialExists spec.name, ?_, if_neg fun h => ?_⟩
      · rw [addCredential_eq names owner spec ha, if_pos hn]
      · rw [hn] at h
        cases h.2
    | false =>
      refine .inr ⟨?_, credentialsOf_add names owner spec ha hn, if_pos ⟨ha, hn⟩⟩
      rw [addCredential_eq names owner spec ha, hn]
      rfl

/-- A call that deletes nothing adds what it creates, and leaves the rest as it is. -/
theorem ids_call {c : Call} (h : c.isDelete = false) (aim : Aim) :
    aim.ids (behaviour names c s).2 = aim.ids s ++ added aim (creation names c s) := by
  cases c with
  | createServicePrincipal appId tags => exact ids_createServicePrincipal appId tags aim
  | createApplication displayName => exact ids_createApplication displayName aim
  | addCredential owner spec => exact ids_addCredential owner spec aim
  | getServicePrincipal _ | getApplication _ | getCredential _ _ _ =>
    simp [behaviour, creation, added]
  | deleteServicePrincipal _ | deleteApplication _ | deleteCredential _ _ =>
    simp [Call.isDelete] at h

theorem ids_delete {c : Call} (h : c.isDelete = true) (aim : Aim) :
    (aim.ids (behaviour names c s).2).Sublist (aim.ids s) := by
  cases c with
  | deleteServicePrincipal id =>
    change (aim.ids (s.deleteServicePrincipal id).2).Sublist _
    unfold deleteServicePrincipal
    split
    · cases aim with
      | application _ => exact .refl _
      | principal _ => exact (List.filter_sublist.filter _).map _
      | credential _ _ _ => exact .refl _
    · exact .refl _
  | deleteApplication id =>
    change (aim.ids (s.deleteApplication id).2).Sublist _
    unfold deleteApplication
    split
    · cases aim with
      | application _ => exact (List.filter_sublist.filter _).map _
      | principal _ => exact .refl _
      | credential owner _ _ => exact ((List.filter_sublist.filterMap _).filter _).map _
    · exact .refl _
  | deleteCredential application id =>
    change (aim.ids (s.deleteCredential application id).2).Sublist _
    unfold deleteCredential
    split
    · cases aim with
      | application _ => exact .refl _
      | principal _ => exact .refl _
      | credential owner _ _ => exact ((List.filter_sublist.filterMap _).filter _).map _
    · exact .refl _
  | createServicePrincipal _ _ | createApplication _ | addCredential _ _ | getServicePrincipal _
  | getApplication _ | getCredential _ _ _ => simp [Call.isDelete] at h

theorem added_other {c : Call} {aim : Aim} (h : ∀ id, creation names c s ≠ some (aim, id)) :
    added aim (creation names c s) = [] := by
  unfold added
  split
  · rename_i made id hc
    exact if_neg fun he => h id (by rw [hc, he])
  · rfl

theorem ids_other {c : Call} {aim : Aim} (h : ∀ id, creation names c s ≠ some (aim, id)) :
    (aim.ids (behaviour names c s).2).Sublist (aim.ids s) := by
  cases hd : c.isDelete with
  | true => exact ids_delete hd aim
  | false => rw [ids_call hd, added_other h, List.append_nil]

theorem ids_created {c : Call} {aim : Aim} {id : ObjectId}
    (h : creation names c s = some (aim, id)) :
    aim.ids (behaviour names c s).2 = aim.ids s ++ [id] := by
  have hd : c.isDelete = false := by
    by_contra hd
    rw [creation_delete (by simpa using hd)] at h
    cases h
  rw [ids_call hd, h, added, if_pos rfl]

theorem map_filter_of_find?_none {α β : Type} {p : α → Bool} {l : List α} (f : α → β)
    (h : l.find? p = none) : (l.filter p).map f = [] := by
  rw [List.filter_eq_nil_iff.mpr (List.find?_eq_none.mp h), List.map_nil]

theorem mem_map_filter_of_find? {α β : Type} {p : α → Bool} {l : List α} {a : α} (f : α → β)
    (h : l.find? p = some a) : f a ∈ (l.filter p).map f :=
  List.mem_map_of_mem (List.mem_filter.mpr ⟨List.mem_of_find?_eq_some h, List.find?_some h⟩)

end Store

end Federation
