import Federation.Proofs.Effect
import Federation.Proofs.Excision
import Federation.Proofs.Journal

namespace Federation

def Reply.adds (owner : ObjectId) (name : String) : Reply → Bool
  | ⟨.addCredential application spec, .ok _⟩ => application = owner && spec.name = name
  | _ => false

/-- How things with keys come and go: what begins with a reply, given the replies before it, and
what ends with one. -/
structure Lifespan (κ α : Type) where
  begins : List Reply → Reply → Option (κ × α)
  ends : Reply → κ × α → Bool

namespace Lifespan

variable {κ α : Type} (l : Lifespan κ α) {earlier later : List Reply} {x : Reply}

/-- What began and has not ended since, in the order in which it began. -/
def lasting (earlier : List Reply) : List Reply → List (κ × α)
  | [] => []
  | x :: later =>
    ((l.begins earlier x).toList.filter fun a => !later.any (l.ends · a)) ++
      lasting (earlier ++ [x]) later

def oldest [DecidableEq κ] (history : List Reply) (k : κ) (asked : α → Bool)
    (missing : DirectoryError) : Except DirectoryError α :=
  match (l.lasting [] history).find? fun a => a.1 = k && asked a.2 with
  | some a => .ok a.2
  | none => .error missing

theorem lasting_concat (earlier later : List Reply) (x : Reply) :
    l.lasting earlier (later ++ [x]) =
      (l.lasting earlier later).filter (!l.ends x ·) ++
        (l.begins (earlier ++ later) x).toList := by
  induction later generalizing earlier with
  | nil => simp [lasting]
  | cons y later ih =>
    have hfirst : ((l.begins earlier y).toList.filter fun a => !(later ++ [x]).any (l.ends · a)) =
        ((l.begins earlier y).toList.filter fun a => !later.any (l.ends · a)).filter
          (!l.ends x ·) := by
      rw [List.filter_filter]
      congr 1
      funext a
      simp [Bool.and_comm]
    rw [List.cons_append, lasting, ih, hfirst, lasting, List.filter_append, ← List.append_cons,
      List.append_assoc]

variable {l}

theorem lasting_begins {a : κ × α} (hbegins : l.begins later x = some a)
    (hends : ∀ a, l.ends x a = false) :
    l.lasting [] (later ++ [x]) = l.lasting [] later ++ [a] := by
  rw [lasting_concat, List.nil_append, hbegins, Option.toList_some]
  simp [hends]

theorem lasting_ends (hbegins : l.begins later x = none) :
    l.lasting [] (later ++ [x]) = (l.lasting [] later).filter (!l.ends x ·) := by
  rw [lasting_concat, List.nil_append, hbegins, Option.toList_none, List.append_nil]

def Ignores (l : Lifespan κ α) (x : Reply) : Prop :=
  (∀ earlier, l.begins earlier x = none) ∧ ∀ a, l.ends x a = false

theorem Ignores.lasting (h : l.Ignores x) :
    l.lasting [] (later ++ [x]) = l.lasting [] later := by
  rw [lasting_ends (h.1 later)]
  simp [h.2]

def applications : Lifespan String Application where
  begins
    | _, ⟨.createApplication displayName, .ok app⟩ => some (displayName, app)
    | _, _ => none
  ends
    | ⟨.deleteApplication id, .ok _⟩, (_, app) => app.id = id
    | _, _ => false

def everCreated (history : List Reply) : List (String × Application) :=
  history.filterMap (applications.begins [])

/-- Service principals, by the names of the applications they are created for. A service principal
outlasts its application. -/
def principals : Lifespan (Option String) ServicePrincipal where
  begins
    | earlier, ⟨.createServicePrincipal appId _, .ok p⟩ =>
      some (((everCreated earlier).find? (·.2.appId = appId)).map (·.1), p)
    | _, _ => none
  ends
    | ⟨.deleteServicePrincipal id, .ok _⟩, (_, p) => p.id = id
    | _, _ => false

/-- Credentials, by the identifiers of their applications. To add one is not answered with the
credential, but it has what it was declared with, and an identifier of its own. -/
def credentials (names : Naming) : Lifespan ObjectId Credential where
  begins
    | earlier, ⟨.addCredential application spec, .ok _⟩ =>
      let n := earlier.countP (·.adds application spec.name)
      some (application, ⟨names.credentialId application spec.name n, spec.name, spec.issuer,
        spec.subject, spec.audiences, spec.description, []⟩)
    | _, _ => none
  ends
    | ⟨.deleteApplication id, .ok _⟩, (owner, _) => owner = id
    | ⟨.deleteCredential application id, .ok _⟩, (owner, c) => owner = application && c.id = id
    | _, _ => false

structure Barren (names : Naming) (x : Reply) : Prop where
  applications : ∀ earlier, applications.begins earlier x = none
  principals : ∀ earlier, principals.begins earlier x = none
  credentials : ∀ earlier, (credentials names).begins earlier x = none
  adds : ∀ owner name, x.adds owner name = false

structure Idle (names : Naming) (x : Reply) : Prop extends Barren names x where
  spared : (∀ a, Lifespan.applications.ends x a = false) ∧
    (∀ a, Lifespan.principals.ends x a = false) ∧
    ∀ a, (Lifespan.credentials names).ends x a = false

variable {names : Naming}

theorem idle_error (c : Call) (e : DirectoryError) : Idle names ⟨c, .error e⟩ := by
  cases c <;> exact ⟨⟨fun _ => rfl, fun _ => rfl, fun _ => rfl, fun _ _ => rfl⟩,
    fun _ => rfl, fun _ => rfl, fun _ => rfl⟩

theorem idle_lookup {c : Call} (hc : c.kind.isLookup = true) (outcome : c.Outcome) :
    Idle names ⟨c, outcome⟩ := by
  cases c with
  | getServicePrincipal | getApplication | getCredential =>
    exact ⟨⟨fun _ => rfl, fun _ => rfl, fun _ => rfl, fun _ _ => rfl⟩,
      fun _ => rfl, fun _ => rfl, fun _ => rfl⟩
  | _ => cases hc

theorem everCreated_concat (history : List Reply) (x : Reply) :
    everCreated (history ++ [x]) = everCreated history ++ (applications.begins [] x).toList :=
  List.filterMap_append

theorem everCreated_concat_none (hx : applications.begins [] x = none) (history : List Reply) :
    everCreated (history ++ [x]) = everCreated history := by
  rw [everCreated_concat, hx, Option.toList_none, List.append_nil]

end Lifespan

open Lifespan (everCreated everCreated_concat everCreated_concat_none)

namespace Deed

def reply (d : Deed) : Reply := ⟨d.call, d.outcome⟩

theorem created?_eq (d : Deed) :
    d.created? = (Lifespan.applications.begins [] d.reply).map (·.2) := by
  obtain ⟨c, outcome, after⟩ := d
  cases c with
  | createApplication displayName => cases outcome <;> rfl
  | _ => rfl

end Deed

namespace Store

variable {names : Naming} {s t : Store} {history : List Reply} {x : Reply}

/-- What lasts of a history is what a store has. -/
structure Recalls (names : Naming) (history : List Reply) (s : Store) : Prop where
  named : ∀ x ∈ everCreated history, x.2.displayName = x.1
  applications : Lifespan.applications.lasting [] history =
    s.applications.map fun app => (app.displayName, app)
  principals : Lifespan.principals.lasting [] history = s.principals.map fun p => (p.displayName, p)
  credentials : (Lifespan.credentials names).lasting [] history = s.credentials
  added : ∀ owner name,
    s.minted.count (.credential owner name) = history.countP (·.adds owner name)

theorem recalls_empty : empty.Recalls names [] where
  named := List.forall_mem_nil _
  applications := rfl
  principals := rfl
  credentials := rfl
  added _ _ := rfl

theorem Recalls.createdUnder (h : s.Recalls names history)
    (hkept : s.Kept names ((everCreated history).map (·.2))) {app : Application}
    (happ : app ∈ s.applications) :
    ((everCreated history).find? (·.2.appId = app.appId)).map (·.1) = some app.displayName := by
  obtain ⟨x, hx, rfl⟩ := List.mem_map.mp (hkept.surviving.mem happ)
  obtain ⟨y, hy⟩ : ∃ y, (everCreated history).find? (·.2.appId = x.2.appId) = some y :=
    Option.isSome_iff_exists.mp (List.find?_isSome.mpr ⟨x, hx, by simp⟩)
  have hcreated : y ∈ everCreated history := List.mem_of_find?_eq_some hy
  have hid : y.2.appId = x.2.appId := by simpa using List.find?_some hy
  have hsame : y.2 = x.2 :=
    List.inj_on_of_nodup_map hkept.appIds.nodup (List.mem_map_of_mem hcreated)
      (List.mem_map_of_mem hx) hid
  rw [hy, Option.map_some, ← hsame, h.named y hcreated]

theorem Recalls.shrink (h : s.Recalls names history) (hx : Lifespan.Barren names x)
    (happs : t.applications =
      s.applications.filter fun app => !Lifespan.applications.ends x (app.displayName, app))
    (hprincipals : t.principals =
      s.principals.filter fun p => !Lifespan.principals.ends x (p.displayName, p))
    (hcredentials : t.credentials =
      s.credentials.filter (!(Lifespan.credentials names).ends x ·))
    (hminted : t.minted = s.minted) : t.Recalls names (history ++ [x]) where
  named := by
    rw [everCreated_concat_none (hx.applications [])]
    exact h.named
  applications := by
    rw [Lifespan.lasting_ends (hx.applications _), h.applications, happs, List.filter_map]
    rfl
  principals := by
    rw [Lifespan.lasting_ends (hx.principals _), h.principals, hprincipals, List.filter_map]
    rfl
  credentials := by
    rw [Lifespan.lasting_ends (hx.credentials _), h.credentials, hcredentials]
  added owner name := by
    rw [hminted, h.added, List.countP_append]
    simp [hx.adds]

theorem Recalls.idle (h : s.Recalls names history) (hx : Lifespan.Idle names x) :
    s.Recalls names (history ++ [x]) := by
  obtain ⟨happs, hprincipals, hcredentials⟩ := hx.spared
  apply h.shrink hx.toBarren
  · simp [happs]
  · simp [hprincipals]
  · simp [hcredentials]
  · rfl

theorem Recalls.createApplication (h : s.Recalls names history) {app : Application}
    {displayName : String} (hname : app.displayName = displayName) :
    ({ s with
      applications := s.applications ++ [app]
      minted := s.minted ++ [.application displayName] } : Store).Recalls names
        (history ++ [⟨.createApplication displayName, .ok app⟩]) where
  named x hx := by
    rw [everCreated_concat] at hx
    obtain hx | hx := List.mem_append.mp hx
    · exact h.named x hx
    · obtain rfl := List.mem_singleton.mp hx
      exact hname
  applications := by
    rw [Lifespan.lasting_begins rfl fun _ => rfl, h.applications, List.map_append, ← hname]
    rfl
  principals := by
    rw [Lifespan.Ignores.lasting ⟨fun _ => rfl, fun _ => rfl⟩, h.principals]
  credentials := by
    rw [Lifespan.Ignores.lasting ⟨fun _ => rfl, fun _ => rfl⟩, h.credentials]
  added owner name := by
    rw [List.count_append, List.countP_append, h.added]
    rfl

theorem Recalls.createServicePrincipal (h : s.Recalls names history)
    (hkept : s.Kept names ((everCreated history).map (·.2))) {app : Application}
    (happ : app ∈ s.applications) (tags : List String) (id : ObjectId) :
    let p : ServicePrincipal := ⟨id, app.appId, app.displayName, tags, []⟩
    ({ s with
      principals := s.principals ++ [p]
      minted := s.minted ++ [.principal app.displayName] } : Store).Recalls names
        (history ++ [⟨.createServicePrincipal app.appId tags, .ok p⟩]) where
  named := by
    rw [everCreated_concat_none rfl]
    exact h.named
  applications := by
    rw [Lifespan.Ignores.lasting ⟨fun _ => rfl, fun _ => rfl⟩, h.applications]
  principals := by
    rw [Lifespan.lasting_begins rfl fun _ => rfl, h.principals, List.map_append,
      h.createdUnder hkept happ]
    rfl
  credentials := by
    rw [Lifespan.Ignores.lasting ⟨fun _ => rfl, fun _ => rfl⟩, h.credentials]
  added owner name := by
    rw [List.count_append, List.countP_append, h.added]
    rfl

theorem Recalls.addCredential (h : s.Recalls names history) (owner : ObjectId)
    (spec : CredentialSpec) :
    ({ s with
      credentials := s.credentials ++ [(owner, s.credential names owner spec)]
      minted := s.minted ++ [.credential owner spec.name] } : Store).Recalls names
        (history ++ [⟨.addCredential owner spec, .ok ()⟩]) where
  named := by
    rw [everCreated_concat_none rfl]
    exact h.named
  applications := by
    rw [Lifespan.Ignores.lasting ⟨fun _ => rfl, fun _ => rfl⟩, h.applications]
  principals := by
    rw [Lifespan.Ignores.lasting ⟨fun _ => rfl, fun _ => rfl⟩, h.principals]
  credentials := by
    rw [Lifespan.lasting_begins rfl fun _ => rfl, h.credentials, ← h.added]
    rfl
  added other name := by
    rw [List.count_append, List.countP_append, h.added]
    simp [Reply.adds, List.count_singleton]

theorem Recalls.call (h : s.Recalls names history)
    (hkept : s.Kept names ((everCreated history).map (·.2))) {c : Call} {outcome : c.Outcome}
    (heffect : s.Effect names c outcome t) : t.Recalls names (history ++ [⟨c, outcome⟩]) := by
  cases heffect with
  | failed c e => exact h.idle (Lifespan.idle_error c e)
  | looked hc outcome => exact h.idle (Lifespan.idle_lookup hc outcome)
  | createApplication hmade =>
    exact h.createApplication (congrArg Application.displayName hmade)
  | createServicePrincipal happ hmade =>
    subst hmade
    exact h.createServicePrincipal hkept happ _ _
  | addCredential => exact h.addCredential _ _
  | deleteApplication | deleteServicePrincipal | deleteCredential =>
    apply h.shrink ⟨fun _ => rfl, fun _ => rfl, fun _ => rfl, fun _ _ => rfl⟩
    · simp [Lifespan.applications]
    · simp [Lifespan.principals]
    · simp [Lifespan.credentials]
    · rfl

theorem Recalls.deed (h : s.Recalls names history)
    (hkept : s.Kept names ((everCreated history).map (·.2))) (c : Call) (cancelled : Bool) :
    (Deed.made names c cancelled s).after.Recalls names
      (history ++ [(Deed.made names c cancelled s).reply]) := by
  cases cancelled with
  | false => exact h.call hkept (effect names c s)
  | true => exact h.idle (Lifespan.idle_error c _)

theorem Recalls.follow (hn : names.Fresh) (h : s.Recalls names history)
    (hkept : s.Kept names ((everCreated history).map (·.2))) (calls : List (Call × Bool)) :
    (s.follow names calls).2.Recalls names
      (history ++ (s.follow names calls).1.map Deed.reply) := by
  induction calls generalizing s history with
  | nil => exact (List.append_nil history).symm ▸ h
  | cons call rest ih =>
    let d := Deed.made names call.1 call.2 s
    have hd : d.after.Recalls names (history ++ [d.reply]) :=
      h.deed hkept call.1 call.2
    have hcreated : (everCreated (history ++ [d.reply])).map (·.2) =
        (everCreated history).map (·.2) ++ d.created?.toList := by
      rw [everCreated_concat, List.map_append, d.created?_eq]
      cases Lifespan.applications.begins [] d.reply <;> rfl
    have hrest := ih hd (hcreated ▸ hkept.deed hn call.1 call.2)
    rwa [List.append_assoc] at hrest

theorem Recalls.getApplication (h : s.Recalls names history) (displayName : String) :
    s.getApplication displayName =
      Lifespan.applications.oldest history displayName (fun _ => true)
        (.notFound .application displayName) := by
  rw [Store.getApplication, Lifespan.oldest, h.applications, List.find?_map]
  simp only [Function.comp_def, Bool.and_true]
  cases s.applications.find? (·.displayName = displayName) <;> rfl

theorem Recalls.getServicePrincipal (h : s.Recalls names history) (displayName : String) :
    s.getServicePrincipal displayName =
      Lifespan.principals.oldest history (some displayName) (fun _ => true)
        (.notFound .servicePrincipal displayName) := by
  rw [Store.getServicePrincipal, Lifespan.oldest, h.principals, List.find?_map]
  simp only [Function.comp_def, Bool.and_true]
  cases s.principals.find? (·.displayName = some displayName) <;> rfl

theorem Recalls.hasApplication (h : s.Recalls names history) (owner : ObjectId) :
    (Lifespan.applications.lasting [] history).any (·.2.id = owner) = s.hasApplication owner := by
  rw [h.applications, List.any_map]
  rfl

theorem Recalls.getCredential (h : s.Recalls names history) (owner : ObjectId)
    (issuer subject : String) :
    s.getCredential owner issuer subject =
      if (Lifespan.applications.lasting [] history).any (·.2.id = owner) then
        (Lifespan.credentials names).oldest history owner (·.answers issuer subject)
          (.credentialNotFound issuer subject)
      else .error (resourceNotFound owner) := by
  have hfind : (s.credentialsOf owner).find? (·.answers issuer subject) =
      (s.credentials.find? fun e => e.1 = owner && e.2.answers issuer subject).map (·.2) := by
    rw [credentialsOf_eq, List.find?_map, List.find?_filter]
    simp
  rw [getCredential_eq, h.hasApplication, Lifespan.oldest, h.credentials, hfind]
  cases s.credentials.find? fun e => e.1 = owner && e.2.answers issuer subject <;> rfl

end Store

open Store

/-- Whatever calls were made of a store that was empty, also with a cancelled token, a lookup gives
the oldest that has lasted. -/
theorem lookups_give_oldest {names : Naming} (hn : names.Fresh) (calls : List (Call × Bool)) :
    let (deeds, s) := empty.follow names calls
    let history := deeds.map Deed.reply
    (∀ displayName, (behaviour names (.getApplication displayName) s).1 =
      Lifespan.applications.oldest history displayName (fun _ => true)
        (.notFound .application displayName)) ∧
    (∀ displayName, (behaviour names (.getServicePrincipal displayName) s).1 =
      Lifespan.principals.oldest history (some displayName) (fun _ => true)
        (.notFound .servicePrincipal displayName)) ∧
    ∀ owner issuer subject, (behaviour names (.getCredential owner issuer subject) s).1 =
      if (Lifespan.applications.lasting [] history).any (·.2.id = owner) then
        (Lifespan.credentials names).oldest history owner (·.answers issuer subject)
          (.credentialNotFound issuer subject)
      else .error (resourceNotFound owner) := by
  have h := recalls_empty.follow hn kept_empty calls
  rw [List.nil_append] at h
  exact ⟨h.getApplication, h.getServicePrincipal, h.getCredential⟩

namespace Lasting

open Excision (spec)

def calls : List (Call × Bool) :=
  Excision.calls.map (·, false) ++
    [(.addCredential ⟨"1#payments"⟩ (spec "gh-main" "dev"), false),
      (.deleteApplication ⟨"1#payments"⟩, true)]

end Lasting

/-- Of the name two applications last, and the service principals of one of them and of one that was
deleted. Two credentials were added for the pair. -/
theorem lookups_give_oldest_namesakes :
    let (deeds, s) := empty.follow .placed Lasting.calls
    let history := deeds.map Deed.reply
    let issuer := "https://oidc.example"
    Naming.placed.Fresh ∧
    (Lifespan.applications.lasting [] history).map (·.2.appId) = ["1#payments", "2#payments"] ∧
    (Lifespan.principals.lasting [] history).map (fun x => (x.1, x.2.appId)) =
      [(some "payments", "0#payments"), (some "payments", "1#payments")] ∧
    ((Lifespan.credentials .placed).lasting [] history).map (fun x => (x.1.text, x.2.name)) =
      [("1#payments", "gh-main"), ("1#payments", "gh-copy"), ("1#payments", "gh-tags"),
        ("2#payments", "gh-main")] ∧
    ((behaviour .placed (.getApplication "payments") s).1.toOption.map (·.appId) =
        some "1#payments" ∧
      (behaviour .placed (.getServicePrincipal "payments") s).1.toOption.map (·.appId) =
        some "0#payments") ∧
    (behaviour .placed (.getCredential ⟨"1#payments"⟩ issuer "main") s).1 =
      (Lifespan.credentials .placed).oldest history ⟨"1#payments"⟩ (·.answers issuer "main")
        (.credentialNotFound issuer "main") ∧
    (behaviour .placed (.getCredential ⟨"0#payments"⟩ issuer "main") s).1 =
      .error (resourceNotFound ⟨"0#payments"⟩) := by
  have hcredential := (lookups_give_oldest Naming.placed_fresh Lasting.calls).2.2
  refine ⟨Naming.placed_fresh, by decide +kernel, by decide +kernel, by decide +kernel,
    ⟨by decide +kernel, by decide +kernel⟩, ?_, ?_⟩
  · exact (hcredential ⟨"1#payments"⟩ _ _).trans (if_pos (by decide +kernel))
  · exact (hcredential ⟨"0#payments"⟩ _ _).trans (if_neg (by decide +kernel))

end Federation
