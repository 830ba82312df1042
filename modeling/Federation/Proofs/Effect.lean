import Federation.Proofs.Store

namespace Federation

namespace Store

/-- The call is answered and leaves a store: nothing is changed if it fails or only looks, and else
the one object that it is about is added or deleted. -/
inductive Effect (names : Naming) (s : Store) : (c : Call) → c.Outcome → Store → Prop
  | failed (c : Call) (e : DirectoryError) : Effect names s c (.error e) s
  | looked {c : Call} (hc : c.kind.isLookup = true) (outcome : c.Outcome) :
    Effect names s c outcome s
  | createApplication {displayName : String} {app : Application}
      (hmade : app =
        names.application displayName (s.minted.count (.application displayName))) :
    Effect names s (.createApplication displayName) (.ok app) { s with
      applications := s.applications ++ [app]
      minted := s.minted ++ [.application displayName] }
  | createServicePrincipal {app : Application} (happ : app ∈ s.applications) {tags : List String}
      {p : ServicePrincipal}
      (hmade : p = ⟨names.principalId app.displayName (s.minted.count (.principal app.displayName)),
        app.appId, app.displayName, tags, []⟩) :
    Effect names s (.createServicePrincipal app.appId tags) (.ok p) { s with
      principals := s.principals ++ [p]
      minted := s.minted ++ [.principal app.displayName] }
  | addCredential {owner : ObjectId} {spec : CredentialSpec} (ho : s.hasApplication owner = true)
      (hname : (s.credentialsOf owner).any (·.name = spec.name) = false) :
    Effect names s (.addCredential owner spec) (.ok ()) { s with
      credentials := s.credentials ++ [(owner, s.credential names owner spec)]
      minted := s.minted ++ [.credential owner spec.name] }
  | deleteApplication {id : ObjectId} (h : ∃ app ∈ s.applications, app.id = id) :
    Effect names s (.deleteApplication id) (.ok ()) { s with
      applications := s.applications.filter (·.id ≠ id)
      credentials := s.credentials.filter (·.1 ≠ id) }
  | deleteServicePrincipal {id : ObjectId} (h : ∃ p ∈ s.principals, p.id = id) :
    Effect names s (.deleteServicePrincipal id) (.ok ())
      { s with principals := s.principals.filter (·.id ≠ id) }
  | deleteCredential {owner id : ObjectId} (h : ∃ c ∈ s.credentialsOf owner, c.id = id) :
    Effect names s (.deleteCredential owner id) (.ok ())
      { s with credentials := s.credentials.filter fun e => !(e.1 = owner && e.2.id = id) }

variable {names : Naming} {s t : Store}

theorem effect (names : Naming) (c : Call) (s : Store) :
    s.Effect names c (behaviour names c s).1 (behaviour names c s).2 := by
  cases c with
  | getServicePrincipal | getApplication | getCredential => exact .looked rfl _
  | createApplication displayName => exact .createApplication rfl
  | createServicePrincipal appId tags =>
    simp only [behaviour, createServicePrincipal]
    cases hf : s.applications.find? (·.appId = appId) with
    | none => exact .failed _ _
    | some app =>
      obtain rfl : app.appId = appId := by simpa using List.find?_some hf
      exact .createServicePrincipal (List.mem_of_find?_eq_some hf) rfl
  | addCredential owner spec =>
    simp only [behaviour]
    cases ho : s.hasApplication owner with
    | false =>
      rw [addCredential, ho]
      exact .failed _ _
    | true =>
      rw [addCredential_eq names owner spec ho]
      split
      · exact .failed _ _
      · rename_i hname
        exact .addCredential ho (Bool.eq_false_iff.mpr hname)
  | deleteServicePrincipal id =>
    simp only [behaviour, deleteServicePrincipal]
    split
    · rename_i hthere
      exact .deleteServicePrincipal (by simpa using hthere)
    · exact .failed _ _
  | deleteApplication id =>
    simp only [behaviour, deleteApplication]
    split
    · rename_i hthere
      exact .deleteApplication ((hasApplication_iff id).mp hthere)
    · exact .failed _ _
  | deleteCredential owner id =>
    simp only [behaviour, deleteCredential]
    split
    · rename_i hthere
      exact .deleteCredential (by simpa using hthere)
    · exact .failed _ _

theorem Effect.unchanged {c : Call} {e : DirectoryError} (h : s.Effect names c (.error e) t) :
    t = s := by
  cases h with
  | failed | looked => rfl

end Store

end Federation
