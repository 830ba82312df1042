import Federation.Directory.Call
import Federation.Directory.Envelope
import Federation.Directory.Filter
import Federation.Directory.Wire

namespace Federation

structure Request where
  verb : Verb
  path : String
  filter : Option Filter
  body : Option Json
  deriving DecidableEq

/-- The answer to a request. A body that is empty is nothing, one that is no JSON a string. -/
structure Response where
  status : Nat
  body : Json
  deriving DecidableEq

def readStatus (v : Json) : Except Mismatch Nat :=
  match v with
  | .integer n =>
    if 0 ≤ n ∧ n < Int.pow 2 16 then .ok n.toNat else .error (.invalidValue v.found "u16")
  | _ => .error (.invalidType v.found "u16")

def isSuccessStatus (status : Nat) : Bool := 200 ≤ status && status < 300

def Response.isSuccess (r : Response) : Bool := isSuccessStatus r.status

def Request.get (path : String) (filter : Filter) : Request := ⟨.get, path, some filter, none⟩

def Request.post (path : String) (body : Json) : Request := ⟨.post, path, none, some body⟩

def Request.delete (path : String) : Request := ⟨.delete, path, none, none⟩

namespace Call

def applicationsPath : String := "/applications"

def principalsPath : String := "/servicePrincipals"

def applicationPath (id : ObjectId) : String := applicationsPath ++ "/" ++ id.text

def credentialsPath (application : ObjectId) : String :=
  applicationPath application ++ "/federatedIdentityCredentials"

/-- The one request of a call. Only one field can be asked for, so the issuer of a credential is
left for the answer. -/
def request : Call → Request
  | .createServicePrincipal appId tags =>
    Request.post principalsPath
      (.object [("appId", .string appId), ("tags", Json.ofStrings tags)])
  | .getServicePrincipal displayName => Request.get principalsPath (.displayName displayName)
  | .deleteServicePrincipal id => Request.delete (principalsPath ++ "/" ++ id.text)
  | .createApplication displayName =>
    Request.post applicationsPath (.object [("displayName", .string displayName)])
  | .getApplication displayName => Request.get applicationsPath (.displayName displayName)
  | .deleteApplication id => Request.delete (applicationPath id)
  | .addCredential application spec =>
    Request.post (credentialsPath application) spec.toJson.canonical
  | .getCredential application _ subject =>
    Request.get (credentialsPath application) (.subject subject)
  | .deleteCredential application id =>
    Request.delete (credentialsPath application ++ "/" ++ id.text)

end Call

namespace Response

def statusError (r : Response) (body : String) : DirectoryError := .transport (.status r.status body)

/-- The fields of the body of an answer that reports success. The body is looked at before the
status. -/
def fields (r : Response) : Except DirectoryError (List (String × Json)) :=
  match r.body with
  | .object fs => do
    match ← (Envelope.classify fs).verdict with
    | some e => .error (.service e)
    | none =>
      if r.isSuccess then .ok fs else .error (r.statusError (Json.object fs).bodyText)
  | v =>
    if !r.isSuccess then .error (r.statusError v.bodyText)
    else if v = .null then .error (.body .empty)
    else .error (.body (.notObject v))

def decode {α : Type} (read : Json → Except Mismatch α) (r : Response) :
    Except DirectoryError α := do
  let fs ← r.fields
  (read (.object fs)).mapError fun why => .body (.shape why)

def itemsSlot {α : Type} (read : Json → Except Mismatch α) : Json.Slot (List α) :=
  .defaulted "value" (Json.readList read) []

def decodeItems {α : Type} (read : Json → Except Mismatch α) : Response → Except DirectoryError (List α) :=
  decode (Json.readRecord "struct Collection" [(itemsSlot read).check] fun src =>
    src.get 0 (itemsSlot read))

def acknowledge (r : Response) : Except DirectoryError Unit :=
  if r.body = .null then
    if r.isSuccess then .ok () else .error (r.statusError "")
  else r.fields.map fun _ => ()

def firstOr {α : Type} (e : DirectoryError) : List α → Except DirectoryError α
  | [] => .error e
  | a :: _ => .ok a

def outcome (r : Response) : (c : Call) → c.Outcome
  | .createServicePrincipal .. => r.decode ServicePrincipal.ofJson
  | .getServicePrincipal displayName => do
    firstOr (.notFound .servicePrincipal displayName) (← r.decodeItems ServicePrincipal.ofJson)
  | .deleteServicePrincipal _ => r.acknowledge
  | .createApplication _ => r.decode Application.ofJson
  | .getApplication displayName => do
    firstOr (.notFound .application displayName) (← r.decodeItems Application.ofJson)
  | .deleteApplication _ => r.acknowledge
  | .addCredential .. => r.fields.map fun _ => ()
  | .getCredential _ issuer subject => do
    let found ← r.decodeItems Credential.ofJson
    firstOr (.credentialNotFound issuer subject) (found.filter (·.answers issuer subject))
  | .deleteCredential .. => r.acknowledge

end Response

abbrev Transport (σ : Type) : Type := Request → σ → Except TransportError Response × σ

/-- A directory behind a transport: each call is one request. -/
def Gateway.behaviour {σ : Type} (send : Transport σ) : Behaviour σ := fun c s =>
  match send c.request s with
  | (.ok r, s) => (r.outcome c, s)
  | (.error e, s) => (.error (.transport e), s)

end Federation
