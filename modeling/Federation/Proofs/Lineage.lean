import Federation.Proofs.Weave

namespace Federation

/-- No two objects that are made have an identifier in common, also not two credentials of different
applications. -/
structure Naming.Fresh (names : Naming) : Prop extends Distinct names where
  owner : ∀ a x m b y n, names.credentialId a x m = names.credentialId b y n → a = b

namespace Naming

def placed : Naming := { counted with
  credentialId := fun owner name n =>
    ⟨numbered n (numbered owner.text.length (owner.text ++ name))⟩ }

theorem placed_credentialId {a b : ObjectId} {x y : String} {m n : Nat}
    (h : placed.credentialId a x m = placed.credentialId b y n) : a = b ∧ x = y ∧ m = n := by
  obtain ⟨hplace, hn⟩ := numbered_inj (congrArg ObjectId.text h)
  obtain ⟨htext, hlength⟩ := numbered_inj hplace
  have hlist := congrArg String.toList htext
  rw [String.toList_append, String.toList_append] at hlist
  obtain ⟨howner, hname⟩ := List.append_inj hlist hlength
  exact ⟨congrArg ObjectId.mk (String.toList_inj.mp howner), String.toList_inj.mp hname, hn⟩

theorem placed_fresh : placed.Fresh where
  applicationId := counted_distinct.applicationId
  appId := counted_distinct.appId
  principalId := counted_distinct.principalId
  credentialId _ _ _ _ _ h := (placed_credentialId h).2
  owner _ _ _ _ _ _ h := (placed_credentialId h).1

end Naming

/-- Objects with identifiers that were given out one after another: each has the number of objects
that had been made by then under the same key, and no identifier occurs twice. -/
structure Issued {α κ ι : Type} (mint : κ → Minted) (ident : κ → Nat → ι) (key : α → κ) (id : α → ι)
    (minted : List Minted) (xs : List α) : Prop where
  nodup : (xs.map id).Nodup
  below : ∀ x ∈ xs, ∃ n < minted.count (mint (key x)), id x = ident (key x) n

namespace Issued

variable {α κ ι : Type} {mint : κ → Minted} {ident : κ → Nat → ι} {key : α → κ} {id : α → ι}
  {minted : List Minted} {xs ys : List α}

theorem nil : Issued mint ident key id minted [] := ⟨List.nodup_nil, List.forall_mem_nil _⟩

theorem sublist (h : Issued mint ident key id minted xs) (hs : ys.Sublist xs) :
    Issued mint ident key id minted ys :=
  ⟨h.nodup.sublist (hs.map id), fun x hx => h.below x (hs.mem hx)⟩

theorem grow (h : Issued mint ident key id minted xs) (m : Minted) :
    Issued mint ident key id (minted ++ [m]) xs := by
  refine ⟨h.nodup, fun x hx => ?_⟩
  obtain ⟨n, hn, he⟩ := h.below x hx
  refine ⟨n, ?_, he⟩
  rw [List.count_append]
  omega

theorem concat (h : Issued mint ident key id minted xs) {x : α}
    (hx : id x = ident (key x) (minted.count (mint (key x))))
    (hinj : ∀ a m b n, ident a m = ident b n → a = b ∧ m = n) :
    Issued mint ident key id (minted ++ [mint (key x)]) (xs ++ [x]) := by
  have hnew : id x ∉ xs.map id := by
    intro hm
    obtain ⟨y, hy, he⟩ := List.mem_map.mp hm
    obtain ⟨n, hn, hid⟩ := h.below y hy
    obtain ⟨hkey, hcount⟩ := hinj _ _ _ _ (hid.symm.trans (he.trans hx))
    rw [hkey] at hn
    omega
  refine ⟨?_, fun y hy => ?_⟩
  · rw [List.map_append, List.map_singleton, ← List.concat_eq_append]
    exact h.nodup.concat hnew
  · obtain hy | hy := List.mem_append.mp hy
    · exact (h.grow _).below y hy
    · rw [List.mem_singleton.mp hy]
      exact ⟨_, by simp, hx⟩

end Issued

namespace Deed

def created? : Deed → Option Application
  | ⟨.createApplication _, .ok app, _⟩ => some app
  | _ => none

def succeeded (d : Deed) : Bool := d.outcome.toBool

def made (names : Naming) (c : Call) (cancelled : Bool) (s : Store) : Deed :=
  if cancelled then refused c s else done names c s

end Deed

namespace Store

def follow (names : Naming) : List (Call × Bool) → Store → List Deed × Store
  | [], s => ([], s)
  | (c, cancelled) :: rest, s =>
    let d := Deed.made names c cancelled s
    let (deeds, t) := follow names rest d.after
    (d :: deeds, t)

/-- Identifiers occur once, credentials have their application and different names in it, and each
service principal has the name of the one application that was ever created with its app id. -/
structure Consistent (created : List Application) (s : Store) : Prop where
  applicationIds : (s.applications.map (·.id)).Nodup
  appIds : (s.applications.map (·.appId)).Nodup
  principalIds : (s.principals.map (·.id)).Nodup
  credentialIds : (s.credentials.map (·.2.id)).Nodup
  owned : ∀ e ∈ s.credentials, ∃ app ∈ s.applications, app.id = e.1
  credentialNames : ∀ owner, ((s.credentialsOf owner).map (·.name)).Nodup
  named : ∀ p ∈ s.principals, ∃ app ∈ created, app.appId = p.appId ∧
    p.displayName = some app.displayName ∧ ∀ other ∈ created, other.appId = p.appId → other = app

/-- What every call keeps: all identifiers were issued, also those of deleted applications. -/
structure Kept (names : Naming) (created : List Application) (s : Store) : Prop
    extends Sound names s where
  applicationIds :
    Issued .application names.applicationId (·.displayName) (·.id) s.minted created
  appIds : Issued .application names.appId (·.displayName) (·.appId) s.minted created
  surviving : s.applications.Sublist created
  principalIds : Issued .principal names.principalId (·.displayName) (·.id) s.minted s.principals
  credentialIds : Issued (fun k : ObjectId × String => .credential k.1 k.2)
    (fun k => names.credentialId k.1 k.2) (fun e => (e.1, e.2.name)) (·.2.id) s.minted s.credentials
  credentialNames : ∀ owner, ((s.credentialsOf owner).map (·.name)).Nodup
  named : ∀ p ∈ s.principals, ∃ app ∈ created, app.appId = p.appId ∧
    p.displayName = some app.displayName

variable {names : Naming} {created : List Application} {s : Store}

theorem kept_empty : Store.empty.Kept names [] where
  toSound := sound_empty
  applicationIds := .nil
  appIds := .nil
  surviving := .refl _
  principalIds := .nil
  credentialIds := .nil
  credentialNames _ := List.nodup_nil
  named := List.forall_mem_nil _

theorem Kept.consistent (h : s.Kept names created) : s.Consistent created where
  applicationIds := (h.applicationIds.sublist h.surviving).nodup
  appIds := (h.appIds.sublist h.surviving).nodup
  principalIds := h.principalIds.nodup
  credentialIds := h.credentialIds.nodup
  owned e he := (hasApplication_iff e.1).mp (h.owned e he)
  credentialNames := h.credentialNames
  named p hp := by
    obtain ⟨app, ha, hid, hname⟩ := h.named p hp
    exact ⟨app, ha, hid, hname, fun other ho he =>
      List.inj_on_of_nodup_map h.appIds.nodup ho ha (he.trans hid.symm)⟩

theorem Kept.shrink (h : s.Kept names created) {t : Store} (ht : t.Sound names)
    (hminted : t.minted = s.minted) (happs : t.applications.Sublist s.applications)
    (hprincipals : t.principals.Sublist s.principals)
    (hcredentials : t.credentials.Sublist s.credentials) : t.Kept names created where
  toSound := ht
  applicationIds := hminted ▸ h.applicationIds
  appIds := hminted ▸ h.appIds
  surviving := happs.trans h.surviving
  principalIds := hminted ▸ h.principalIds.sublist hprincipals
  credentialIds := hminted ▸ h.credentialIds.sublist hcredentials
  credentialNames owner :=
    (h.credentialNames owner).sublist ((hcredentials.filterMap _).map _)
  named p hp := h.named p (hprincipals.mem hp)

theorem Kept.createApplication (h : s.Kept names created) (hn : names.Fresh)
    (displayName : String) :
    (s.createApplication names displayName).2.Kept names
      (created ++
        [names.application displayName (s.minted.count (.application displayName))]) := by
  let app := names.application displayName (s.minted.count (.application displayName))
  have hids := h.applicationIds.concat (x := app) rfl hn.applicationId
  have happIds := h.appIds.concat (x := app) rfl hn.appId
  refine ⟨h.toSound.createApplication displayName, hids, happIds, h.surviving.append (.refl _),
    h.principalIds.grow _, h.credentialIds.grow _, h.credentialNames, fun p hp => ?_⟩
  obtain ⟨other, ho, hid⟩ := h.named p hp
  exact ⟨other, List.mem_append_left _ ho, hid⟩

theorem Kept.createServicePrincipal (h : s.Kept names created) (hn : names.Fresh) (appId : String)
    (tags : List String) :
    (s.createServicePrincipal names appId tags).2.Kept names created := by
  have hsound := h.toSound.createServicePrincipal appId tags
  unfold Store.createServicePrincipal at hsound ⊢
  cases hf : s.applications.find? (·.appId = appId) with
  | none => exact h
  | some app =>
    rw [hf] at hsound
    let p : ServicePrincipal :=
      ⟨names.principalId app.displayName (s.minted.count (.principal app.displayName)), appId,
        app.displayName, tags, []⟩
    have hids := h.principalIds.concat (x := p) rfl hn.principalId
    -- The application may be deleted later on, but it will always have been created.
    have hid : app.appId = appId := by simpa using List.find?_some hf
    have happ : app ∈ created := h.surviving.mem (List.mem_of_find?_eq_some hf)
    refine ⟨hsound, h.applicationIds.grow _, h.appIds.grow _, h.surviving, hids,
      h.credentialIds.grow _, h.credentialNames, fun q hq => ?_⟩
    obtain hq | hq := List.mem_append.mp hq
    · exact h.named q hq
    · rw [List.mem_singleton.mp hq]
      exact ⟨app, happ, hid, rfl⟩

theorem Kept.addCredential (h : s.Kept names created) (hn : names.Fresh) (owner : ObjectId)
    (spec : CredentialSpec) : (s.addCredential names owner spec).2.Kept names created := by
  have hsound := h.toSound.addCredential owner spec
  cases ho : s.hasApplication owner with
  | false =>
    have hsame : s.addCredential names owner spec = (.error (resourceNotFound owner), s) := by
      simp [Store.addCredential, ho]
    rw [hsame]
    exact h
  | true =>
    rw [addCredential_eq names owner spec ho] at hsound ⊢
    cases htaken : (s.credentialsOf owner).any (·.name = spec.name) with
    | true => exact h
    | false =>
      rw [htaken] at hsound
      have hids := h.credentialIds.concat (x := (owner, s.credential names owner spec)) rfl
        fun a m b n he => ?_
      refine ⟨hsound, h.applicationIds.grow _, h.appIds.grow _, h.surviving, h.principalIds.grow _,
        hids, fun other => ?_, h.named⟩
      · have hname : (s.credential names owner spec).name ∉
            (s.credentialsOf owner).map (·.name) := by
          simpa [Store.credential] using htaken
        rw [if_neg Bool.false_ne_true, credentialsOf_append, List.map_append]
        by_cases he : owner = other
        · subst he
          simpa using (h.credentialNames owner).concat hname
        · simpa [he] using h.credentialNames other
      -- Counts go by owner and name, and identifiers tell both apart.
      · have howner := hn.owner _ _ _ _ _ _ he
        obtain ⟨hname, hcount⟩ := hn.credentialId _ _ _ _ _ (howner ▸ he)
        exact ⟨Prod.ext howner hname, hcount⟩

theorem Kept.append_none (h : s.Kept names created) {app? : Option Application}
    (hnone : app? = none) : s.Kept names (created ++ app?.toList) := by
  rw [hnone, Option.toList_none, List.append_nil]
  exact h

theorem Kept.call (h : s.Kept names created) (hn : names.Fresh) (c : Call) :
    (behaviour names c s).2.Kept names (created ++ (Deed.done names c s).created?.toList) := by
  have hsound := h.toSound.call c
  cases c with
  | createApplication displayName => exact h.createApplication hn displayName
  | createServicePrincipal appId tags =>
    exact (h.createServicePrincipal hn appId tags).append_none rfl
  | addCredential owner spec => exact (h.addCredential hn owner spec).append_none rfl
  | getServicePrincipal _ | getApplication _ | getCredential _ _ _ => exact h.append_none rfl
  | deleteServicePrincipal id =>
    refine Kept.append_none ?_ rfl
    rw [behaviour, deleteServicePrincipal_snd] at hsound ⊢
    exact h.shrink hsound rfl (.refl _) List.filter_sublist (.refl _)
  | deleteApplication id =>
    refine Kept.append_none ?_ rfl
    rw [behaviour, h.toSound.deleteApplication_snd] at hsound ⊢
    exact h.shrink hsound rfl List.filter_sublist (.refl _) List.filter_sublist
  | deleteCredential owner id =>
    refine Kept.append_none ?_ rfl
    rw [behaviour, deleteCredential_snd] at hsound ⊢
    exact h.shrink hsound rfl (.refl _) (.refl _) List.filter_sublist

theorem Kept.deed (h : s.Kept names created) (hn : names.Fresh) (c : Call) (cancelled : Bool) :
    (Deed.made names c cancelled s).after.Kept names
      (created ++ (Deed.made names c cancelled s).created?.toList) := by
  cases cancelled with
  | false => exact h.call hn c
  | true =>
    have hnone : (Deed.refused c s).created? = none := by cases c <;> rfl
    exact h.append_none hnone

theorem Kept.follow (h : s.Kept names created) (hn : names.Fresh) (calls : List (Call × Bool)) :
    (s.follow names calls).2.Kept names
      (created ++ (s.follow names calls).1.filterMap Deed.created?) := by
  induction calls generalizing s created with
  | nil => exact (List.append_nil created).symm ▸ h
  | cons call rest ih =>
    have hrest := ih (h.deed hn call.1 call.2)
    have hcreated : (s.follow names (call :: rest)).1.filterMap Deed.created? =
        (Deed.made names call.1 call.2 s).created?.toList ++
          ((Deed.made names call.1 call.2 s).after.follow names rest).1.filterMap
            Deed.created? := by
      rw [Store.follow, List.filterMap_cons]
      cases (Deed.made names call.1 call.2 s).created? <;> rfl
    rw [hcreated, ← List.append_assoc]
    exact hrest

/-- Whatever calls are made of a store that was empty, it is consistent after them. -/
theorem follow_consistent (hn : names.Fresh) (calls : List (Call × Bool)) :
    (empty.follow names calls).2.Consistent
      ((empty.follow names calls).1.filterMap Deed.created?) :=
  (kept_empty.follow hn calls).consistent

end Store

namespace Lineage

def spec : CredentialSpec := ⟨"main", "https://issuer", "repo:main", ["api"], none⟩

/-- Two applications of one name, of which the one with the principal is deleted. The credential and
the principal are asked for once more than can be, and one call comes after its token was
cancelled. -/
def calls : List (Call × Bool) :=
  [(.createApplication "payments", false), (.createApplication "payments", false),
    (.addCredential ⟨"0#payments"⟩ spec, false), (.addCredential ⟨"0#payments"⟩ spec, false),
    (.addCredential ⟨"1#payments"⟩ spec, false), (.createServicePrincipal "0#payments" [], false),
    (.deleteApplication ⟨"1#payments"⟩, true), (.deleteApplication ⟨"0#payments"⟩, false),
    (.createServicePrincipal "0#payments" [], false)]

end Lineage

open Store in
theorem follow_consistent_namesakes :
    Naming.placed.Fresh ∧
    let (deeds, s) := empty.follow .placed Lineage.calls
    deeds.map Deed.succeeded = [true, true, true, false, true, true, false, true, false] ∧
    s.applications.map (·.appId) = ["1#payments"] ∧
    s.principals.map (fun p => (p.appId, p.displayName)) = [("0#payments", some "payments")] ∧
    s.credentials.map (·.1) = [⟨"1#payments"⟩] ∧
    s.Consistent (deeds.filterMap Deed.created?) :=
  ⟨Naming.placed_fresh, by decide, by decide, by decide, by decide,
    follow_consistent Naming.placed_fresh Lineage.calls⟩

end Federation
