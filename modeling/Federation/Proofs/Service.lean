import Federation.Proofs.Answer
import Federation.Proofs.Operation
import Federation.Proofs.Store

namespace Federation

namespace Service

def respond (status : Nat) (body : Json) : Response := ⟨status, body.canonical⟩

def created (object : Json) : Response := respond 201 object

def listed (items : List Json) : Response := respond 200 (.object [("value", .array items)])

def deleted : Response := respond 204 .null

def refused (status : Nat) (e : ServiceError) : Response :=
  respond status (.object [("error", e.toJson)])

variable (names : Naming) (refusal : ServiceError → Nat)

def answer {α : Type} (success : α → Response) : Except DirectoryError α → Response
  | .ok a => success a
  | .error (.service e) => refused (refusal e) e
  | .error _ => respond 500 .null

/-- Performs an operation. What is listed has the value in the field that was asked for, in the
order of creation. -/
def perform : Operation → Store → Response × Store
  | .createApplication displayName, s =>
    let (r, s) := s.createApplication names displayName
    (answer refusal (fun app => created app.toJson) r, s)
  | .listApplications displayName, s =>
    (listed ((s.applications.filter (·.displayName = displayName)).map (·.toJson)), s)
  | .deleteApplication id, s =>
    let (r, s) := s.deleteApplication id
    (answer refusal (fun _ => deleted) r, s)
  | .createPrincipal appId tags, s =>
    let (r, s) := s.createServicePrincipal names appId tags
    (answer refusal (fun principal => created principal.toJson) r, s)
  | .listPrincipals displayName, s =>
    (listed ((s.principals.filter (·.displayName = some displayName)).map (·.toJson)), s)
  | .deletePrincipal id, s =>
    let (r, s) := s.deleteServicePrincipal id
    (answer refusal (fun _ => deleted) r, s)
  | .addCredential owner spec, s =>
    let credential := s.credential names owner spec
    let (r, s) := s.addCredential names owner spec
    (answer refusal (fun _ => created credential.toJson) r, s)
  | .listCredentials owner subject, s =>
    let found := (s.credentialsOf owner).filter (·.subject = subject)
    (answer refusal (fun _ => listed (found.map (·.toJson)))
      (if s.hasApplication owner then .ok () else .error (Store.resourceNotFound owner)), s)
  | .deleteCredential owner id, s =>
    let (r, s) := s.deleteCredential owner id
    (answer refusal (fun _ => deleted) r, s)

/-- The service as a transport: a request is read, and the operation it denotes is performed. -/
def serve : Transport Store := fun q s =>
  match Operation.ofRequest q with
  | none => (.ok (respond 400 .null), s)
  | some operation =>
    let (r, s) := perform names refusal operation s
    (.ok r, s)

end Service

namespace Store

variable {names : Naming} {s : Store}

/-- No object has fields without a meaning. -/
structure Plain (s : Store) : Prop where
  applications : ∀ app ∈ s.applications, app.additional = []
  principals : ∀ p ∈ s.principals, p.additional = []
  credentials : ∀ e ∈ s.credentials, e.2.additional = []

theorem Plain.credentialsOf (h : s.Plain) (owner : ObjectId) :
    ∀ c ∈ s.credentialsOf owner, c.additional = [] := by
  intro c hc
  obtain ⟨⟨other, c'⟩, he, hsome⟩ := List.mem_filterMap.mp hc
  obtain ⟨-, rfl⟩ : other = owner ∧ c' = c := by simpa using hsome
  exact h.credentials _ he

theorem Plain.call (h : s.Plain) (c : Call) : (behaviour names c s).2.Plain := by
  cases c with
  | getServicePrincipal _ | getApplication _ | getCredential _ _ _ => exact h
  | createApplication displayName =>
    refine ⟨fun app ha => ?_, h.principals, h.credentials⟩
    obtain ha | ha := List.mem_append.mp ha
    · exact h.applications app ha
    · rw [List.mem_singleton.mp ha]
  | createServicePrincipal appId tags =>
    simp only [behaviour, createServicePrincipal]
    split
    · exact h
    · refine ⟨h.applications, fun p hp => ?_, h.credentials⟩
      obtain hp | hp := List.mem_append.mp hp
      · exact h.principals p hp
      · rw [List.mem_singleton.mp hp]
  | addCredential owner spec =>
    simp only [behaviour, addCredential]
    split
    · exact h
    · split
      · exact h
      · refine ⟨h.applications, h.principals, fun e he => ?_⟩
        obtain he | he := List.mem_append.mp he
        · exact h.credentials e he
        · rw [List.mem_singleton.mp he]
  | deleteApplication id =>
    simp only [behaviour, deleteApplication]
    split
    · exact ⟨fun app ha => h.applications app (List.mem_of_mem_filter ha), h.principals,
        fun e he => h.credentials e (List.mem_of_mem_filter he)⟩
    · exact h
  | deleteServicePrincipal id =>
    rw [behaviour, deleteServicePrincipal_snd]
    exact ⟨h.applications, fun p hp => h.principals p (List.mem_of_mem_filter hp), h.credentials⟩
  | deleteCredential owner id =>
    rw [behaviour, deleteCredential_snd]
    exact ⟨h.applications, h.principals,
      fun e he => h.credentials e (List.mem_of_mem_filter he)⟩

theorem Reachable.plain (h : s.Reachable names) : s.Plain := by
  induction h with
  | empty => exact ⟨nofun, nofun, nofun⟩
  | call _ c ih => exact ih.call c

theorem refused_behaviour {c : Call} (hc : c.kind.isLookup = false) {e : DirectoryError}
    (h : (behaviour names c s).1 = .error e) :
    ∃ code message, e = .service (.basic code message) := by
  cases c with
  | getServicePrincipal _ | getApplication _ | getCredential _ _ _ => cases hc
  | createApplication displayName => cases h
  | createServicePrincipal appId tags =>
    simp only [behaviour, createServicePrincipal] at h
    split at h <;> cases h
    exact ⟨_, _, rfl⟩
  | addCredential owner spec =>
    simp only [behaviour, addCredential] at h
    split at h
    · cases h
      exact ⟨_, _, rfl⟩
    · split at h <;> cases h
      exact ⟨_, _, rfl⟩
  | deleteApplication id =>
    simp only [behaviour, deleteApplication] at h
    split at h <;> cases h
    exact ⟨_, _, rfl⟩
  | deleteServicePrincipal id =>
    simp only [behaviour, deleteServicePrincipal] at h
    split at h <;> cases h
    exact ⟨_, _, rfl⟩
  | deleteCredential owner id =>
    simp only [behaviour, deleteCredential] at h
    split at h <;> cases h
    exact ⟨_, _, rfl⟩

end Store

namespace Service

variable {names : Naming} {refusal : ServiceError → Nat} {s : Store}

theorem clean_respond {status : Nat} {body : Json} {fs : List (String × Json)}
    (hb : body.canonical = .object fs) (h : Json.get? Envelope.errorKey fs = none) :
    (respond status body).Clean := by
  intro fs' v hb' hv
  obtain rfl : fs = fs' := Json.object.inj (hb.symm.trans hb')
  rw [h] at hv
  cases hv

theorem outcome_refused (status : Nat) (code message : String) (c : Call) :
    (refused status (.basic code message)).outcome c =
      .error (.service (.basic code message)) :=
  Response.outcome_of_reports
    ⟨_, _, rfl, rfl, ServiceError.ofJson_toJson code message⟩ c

theorem outcome_answer {c : Call} {success : c.Answer → Response} {x : c.Outcome}
    (hok : ∀ a, x = .ok a → (success a).outcome c = .ok a)
    (herror : ∀ e, x = .error e → ∃ code message, e = .service (.basic code message)) :
    (answer refusal success x).outcome c = x := by
  cases x with
  | ok a => exact hok a rfl
  | error e =>
    obtain ⟨code, message, rfl⟩ := herror e rfl
    exact outcome_refused _ code message c

theorem outcome_respond {c : Call} {a : c.Answer} {status : Nat} {body : Json}
    {fs : List (String × Json)} (hs : isSuccessStatus status = true)
    (hb : body.canonical = .object fs) (hn : Json.get? Envelope.errorKey fs = none)
    (h : c.Gives body.canonical a) : (respond status body).outcome c = .ok a :=
  (Response.outcome_of_success c (clean_respond hb hn) hs a).mpr h

theorem outcome_created_application {app : Application} (h : app.additional = [])
    (displayName : String) :
    (created app.toJson).outcome (.createApplication displayName) = .ok app := by
  have hb := Application.canonical_toJson h
  exact outcome_respond (c := .createApplication displayName) rfl hb rfl
    ⟨⟨_, hb⟩, Application.ofJson_toJson h⟩

theorem outcome_created_principal {p : ServicePrincipal} (h : p.additional = [])
    (appId : String) (tags : List String) :
    (created p.toJson).outcome (.createServicePrincipal appId tags) = .ok p := by
  have hb := ServicePrincipal.canonical_toJson h
  exact outcome_respond (c := .createServicePrincipal appId tags) rfl hb rfl
    ⟨⟨_, hb⟩, ServicePrincipal.ofJson_toJson h⟩

theorem outcome_created_credential {c : Credential} (h : c.additional = []) (owner : ObjectId)
    (spec : CredentialSpec) : (created c.toJson).outcome (.addCredential owner spec) = .ok () := by
  have hb := Credential.canonical_toJson h
  exact outcome_respond (c := .addCredential owner spec) rfl hb rfl ⟨_, hb⟩

theorem outcome_deleted {c : Call} (h : c.isDelete = true) (a : c.Answer) :
    deleted.outcome c = .ok a := by
  obtain ⟨b, hb, hall⟩ := (Response.outcome_of_null (r := deleted) h rfl).2.1 rfl
  rw [hb, hall a]

theorem collects_listed {α : Type} {write : α → Json} {read : Json → Except Mismatch α}
    {items : List α} (h : ∀ a ∈ items, read (write a).canonical = .ok a) :
    ∃ fs, (Json.object [("value", .array (items.map write))]).canonical = .object fs ∧
      Json.get? Envelope.errorKey fs = none ∧ Json.Collects read fs items := by
  have hread := Json.readList_ofList h
  have hb : (Json.object [("value", .array (items.map write))]).canonical =
      .object [("value", Json.ofList (fun a => (write a).canonical) items)] := by
    simp [Json.canonical, Json.canonicalFields, Json.canonicalItems_eq_map, Json.sortFields,
      Json.put, Json.ofList, Function.comp_def]
  refine ⟨_, hb, rfl, ?_, hread⟩
  rintro _ hf -
  rw [List.mem_singleton.mp hf]
  exact ⟨_, hread⟩

theorem outcome_absent {c : Call} {e : DirectoryError} {items : List Json}
    {fs : List (String × Json)}
    (hb : (Json.object [("value", .array items)]).canonical = .object fs)
    (hn : Json.get? Envelope.errorKey fs = none) (he : c.absence? = some e)
    (hempty : e.isNotFound = true) (h : c.Lacks (.object fs)) :
    (listed items).outcome c = .error e :=
  (Response.outcome_eq_absence hb (Response.fields_of_success (clean_respond hb hn) rfl hb)
    c e hempty).mpr ⟨he, (congrArg c.Lacks hb).mpr h⟩

theorem outcome_listed_applications {s : Store} (hs : s.Plain) (displayName : String) :
    (listed ((s.applications.filter (·.displayName = displayName)).map (·.toJson))).outcome
      (.getApplication displayName) = s.getApplication displayName := by
  obtain ⟨fs, hb, hn, hitems⟩ := @collects_listed _ _ _
    (s.applications.filter (·.displayName = displayName)) fun app ha =>
      Application.ofJson_toJson (hs.applications app (List.mem_of_mem_filter ha))
  unfold Store.getApplication
  cases hf : s.applications.find? (·.displayName = displayName) with
  | some app =>
    refine outcome_respond (c := .getApplication displayName) rfl hb hn ⟨fs, _, hb, hitems, ?_⟩
    rw [List.head?_filter, hf]
  | none =>
    rw [List.filter_eq_nil_iff.mpr (List.find?_eq_none.mp hf)] at hitems
    exact outcome_absent (c := .getApplication displayName) hb hn rfl rfl ⟨fs, rfl, hitems⟩

theorem outcome_listed_principals {s : Store} (hs : s.Plain) (displayName : String) :
    (listed ((s.principals.filter (·.displayName = some displayName)).map (·.toJson))).outcome
      (.getServicePrincipal displayName) = s.getServicePrincipal displayName := by
  obtain ⟨fs, hb, hn, hitems⟩ := @collects_listed _ _ _
    (s.principals.filter (·.displayName = some displayName)) fun p hp =>
      ServicePrincipal.ofJson_toJson (hs.principals p (List.mem_of_mem_filter hp))
  unfold Store.getServicePrincipal
  cases hf : s.principals.find? (·.displayName = some displayName) with
  | some p =>
    refine outcome_respond (c := .getServicePrincipal displayName) rfl hb hn
      ⟨fs, _, hb, hitems, ?_⟩
    rw [List.head?_filter, hf]
  | none =>
    rw [List.filter_eq_nil_iff.mpr (List.find?_eq_none.mp hf)] at hitems
    exact outcome_absent (c := .getServicePrincipal displayName) hb hn rfl rfl ⟨fs, rfl, hitems⟩

theorem outcome_listed_credentials {cs : List Credential} (h : ∀ c ∈ cs, c.additional = [])
    (owner : ObjectId) (issuer subject : String) :
    (listed ((cs.filter (·.subject = subject)).map (·.toJson))).outcome
      (.getCredential owner issuer subject) =
      (match (cs.filter (·.subject = subject)).find? (·.issuer = issuer) with
        | some c => .ok c
        | none => .error (.credentialNotFound issuer subject)) := by
  obtain ⟨fs, hb, hn, hitems⟩ := @collects_listed _ _ _ (cs.filter (·.subject = subject))
    fun c hc => Credential.ofJson_toJson (h c (List.mem_of_mem_filter hc))
  have hfind : (cs.filter (·.subject = subject)).find? (·.answers issuer subject) =
      (cs.filter (·.subject = subject)).find? (·.issuer = issuer) := by
    rw [List.find?_filter, List.find?_filter]
    congr 1
    funext c
    by_cases hsubject : c.subject = subject <;> simp [Credential.answers, hsubject]
  cases hf : (cs.filter (·.subject = subject)).find? (·.issuer = issuer) with
  | some c =>
    exact outcome_respond (c := .getCredential owner issuer subject) rfl hb hn
      ⟨fs, _, hb, hitems, hfind.trans hf⟩
  | none =>
    refine outcome_absent (c := .getCredential owner issuer subject) hb hn rfl rfl
      ⟨fs, _, rfl, hitems, fun c hc he => ?_⟩
    simpa [he.1] using List.find?_eq_none.mp hf c hc

theorem perform_operation (hs : s.Plain) (c : Call) :
    (perform names refusal c.operation s).1.outcome c = (Store.behaviour names c s).1 ∧
      (perform names refusal c.operation s).2 = (Store.behaviour names c s).2 := by
  have hrefused : c.kind.isLookup = false → ∀ e, (Store.behaviour names c s).1 = .error e →
      ∃ code message, e = .service (.basic code message) := fun hc _ => Store.refused_behaviour hc
  cases c with
  | createApplication displayName =>
    exact ⟨outcome_created_application rfl displayName, rfl⟩
  | createServicePrincipal appId tags =>
    refine ⟨outcome_answer (c := .createServicePrincipal appId tags) ?_ (hrefused rfl), rfl⟩
    intro p hp
    refine outcome_created_principal ?_ appId tags
    split at hp <;> cases hp
    rfl
  | addCredential owner spec =>
    refine ⟨outcome_answer (c := .addCredential owner spec) (fun _ _ => ?_) (hrefused rfl), rfl⟩
    exact outcome_created_credential rfl owner spec
  | deleteApplication id =>
    exact ⟨outcome_answer (c := .deleteApplication id) (fun a _ => outcome_deleted rfl a)
      (hrefused rfl), rfl⟩
  | deleteServicePrincipal id =>
    exact ⟨outcome_answer (c := .deleteServicePrincipal id) (fun a _ => outcome_deleted rfl a)
      (hrefused rfl), rfl⟩
  | deleteCredential owner id =>
    exact ⟨outcome_answer (c := .deleteCredential owner id) (fun a _ => outcome_deleted rfl a)
      (hrefused rfl), rfl⟩
  | getApplication displayName => exact ⟨outcome_listed_applications hs displayName, rfl⟩
  | getServicePrincipal displayName => exact ⟨outcome_listed_principals hs displayName, rfl⟩
  | getCredential owner issuer subject =>
    refine ⟨?_, rfl⟩
    cases happ : s.hasApplication owner with
    | true =>
      simp only [Call.operation, perform, happ, Store.behaviour, Store.getCredential]
      exact outcome_listed_credentials (hs.credentialsOf owner) owner issuer subject
    | false =>
      simp only [Call.operation, perform, happ, Store.behaviour, Store.getCredential]
      exact outcome_refused _ _ _ (.getCredential owner issuer subject)

/-- Behind the gateway each call has the outcome and the effect that it has in the store. -/
theorem behaviour_serve (hs : s.Plain) {c : Call} (h : ∀ id ∈ c.resource.ids, id.OneSegment) :
    Gateway.behaviour (serve names refusal) c s = Store.behaviour names c s := by
  obtain ⟨houtcome, hstore⟩ := @perform_operation names refusal s hs c
  have hsend : serve names refusal c.request s =
      (.ok (perform names refusal c.operation s).1, (perform names refusal c.operation s).2) := by
    unfold serve
    rw [Operation.ofRequest_request h]
  unfold Gateway.behaviour
  rw [hsend]
  exact Prod.ext houtcome hstore

end Service

def outcomes {σ : Type} (d : Behaviour σ) : List Call → σ → List ((c : Call) × c.Outcome) × σ
  | [], s => ([], s)
  | c :: cs, s =>
    let (r, s) := d c s
    let (rest, s) := outcomes d cs s
    (⟨c, r⟩ :: rest, s)

/-- Whatever is called, the gateway before the service and the store come to the same: all results,
all errors with all they say, and what is there afterwards. -/
theorem outcomes_serve {names : Naming} (refusal : ServiceError → Nat) {s : Store}
    (hs : s.Reachable names) {cs : List Call}
    (h : ∀ c ∈ cs, ∀ id ∈ c.resource.ids, id.OneSegment) :
    outcomes (Gateway.behaviour (Service.serve names refusal)) cs s =
      outcomes (Store.behaviour names) cs s := by
  induction cs generalizing s with
  | nil => rfl
  | cons c cs ih =>
    obtain ⟨hc, hcs⟩ := List.forall_mem_cons.mp h
    simp only [outcomes, Service.behaviour_serve hs.plain hc, ih (hs.call c) hcs]

namespace Quoted

def app : Application := Naming.counted.application "o'brien" 0

def spec : CredentialSpec := .basic "gh-main" "https://oidc.example" "repo:o'brien/payments"

def calls : List Call :=
  [.createApplication app.displayName, .createServicePrincipal app.appId ["tether"],
    .addCredential app.id spec, .addCredential app.id spec,
    .getCredential app.id spec.issuer spec.subject, .getServicePrincipal app.displayName,
    .deleteApplication app.id, .deleteApplication app.id]

theorem oneSegment : ∀ c ∈ calls, ∀ id ∈ c.resource.ids, id.OneSegment := by decide +kernel

end Quoted

theorem outcomes_serve_quoted :
    Store.empty.Reachable .counted ∧
    (∀ c ∈ Quoted.calls, ∀ id ∈ c.resource.ids, id.OneSegment) ∧
    (outcomes (Store.behaviour .counted) Quoted.calls .empty).2.principals.length = 1 ∧
    outcomes (Gateway.behaviour (Service.serve .counted fun _ => 409)) Quoted.calls .empty =
      outcomes (Store.behaviour .counted) Quoted.calls .empty :=
  ⟨.empty, Quoted.oneSegment, rfl, outcomes_serve _ .empty Quoted.oneSegment⟩

end Federation
