import Federation.Directory.Wire

namespace Federation

/-- One step that was observed or performed. What a dry run plans to create has no object id. -/
inductive Change
  | applicationCreated (displayName : String) (id : Option ObjectId)
  | applicationUnchanged (displayName : String) (id : ObjectId)
  | applicationDeleted (displayName : String) (id : ObjectId)
  | principalCreated (displayName : String) (id : Option ObjectId)
  | principalUnchanged (displayName : String) (id : ObjectId)
  | principalDeleted (displayName : String) (id : ObjectId)
  | credentialAdded (displayName name issuer subject : String) (id : Option ObjectId)
  | credentialUnchanged (displayName name : String) (id : ObjectId)
  | credentialDeleted (displayName name : String) (id : ObjectId)
  | identityAbsent (displayName : String)
  deriving DecidableEq, Repr

namespace Change

def isMutation : Change → Bool
  | .applicationUnchanged .. | .principalUnchanged .. | .credentialUnchanged ..
  | .identityAbsent _ => false
  | _ => true

inductive Kind
  | applicationCreated
  | applicationUnchanged
  | applicationDeleted
  | principalCreated
  | principalUnchanged
  | principalDeleted
  | credentialAdded
  | credentialUnchanged
  | credentialDeleted
  | identityAbsent
  deriving DecidableEq, Repr

def kind : Change → Kind
  | .applicationCreated .. => .applicationCreated
  | .applicationUnchanged .. => .applicationUnchanged
  | .applicationDeleted .. => .applicationDeleted
  | .principalCreated .. => .principalCreated
  | .principalUnchanged .. => .principalUnchanged
  | .principalDeleted .. => .principalDeleted
  | .credentialAdded .. => .credentialAdded
  | .credentialUnchanged .. => .credentialUnchanged
  | .credentialDeleted .. => .credentialDeleted
  | .identityAbsent .. => .identityAbsent

namespace Kind

def all : List Kind :=
  [.applicationCreated, .applicationUnchanged, .applicationDeleted, .principalCreated,
    .principalUnchanged, .principalDeleted, .credentialAdded, .credentialUnchanged,
    .credentialDeleted, .identityAbsent]

def name : Kind → String
  | .applicationCreated => "application_created"
  | .applicationUnchanged => "application_unchanged"
  | .applicationDeleted => "application_deleted"
  | .principalCreated => "service_principal_created"
  | .principalUnchanged => "service_principal_unchanged"
  | .principalDeleted => "service_principal_deleted"
  | .credentialAdded => "federated_credential_added"
  | .credentialUnchanged => "federated_credential_unchanged"
  | .credentialDeleted => "federated_credential_deleted"
  | .identityAbsent => "identity_absent"

def label : Kind → String
  | .applicationCreated => "ApplicationCreated"
  | .applicationUnchanged => "ApplicationUnchanged"
  | .applicationDeleted => "ApplicationDeleted"
  | .principalCreated => "ServicePrincipalCreated"
  | .principalUnchanged => "ServicePrincipalUnchanged"
  | .principalDeleted => "ServicePrincipalDeleted"
  | .credentialAdded => "FederatedCredentialAdded"
  | .credentialUnchanged => "FederatedCredentialUnchanged"
  | .credentialDeleted => "FederatedCredentialDeleted"
  | .identityAbsent => "IdentityAbsent"

end Kind

open Json (Slot)

def kindKey : String := "kind"

def displayNameSlot : Slot String := .required "display_name" Json.readString
def nameSlot : Slot String := .required "name" Json.readString
def issuerSlot : Slot String := .required "issuer" Json.readString
def subjectSlot : Slot String := .required "subject" Json.readString
def idSlot : Slot ObjectId := .required "object_id" ObjectId.ofJson
def plannedIdSlot : Slot (Option ObjectId) := .optional "object_id" ObjectId.ofJson

def checks : Kind → List (String × Json → Except Mismatch Unit)
  | .applicationCreated | .principalCreated => [displayNameSlot.check, plannedIdSlot.check]
  | .applicationUnchanged | .applicationDeleted | .principalUnchanged | .principalDeleted =>
    [displayNameSlot.check, idSlot.check]
  | .credentialAdded =>
    [displayNameSlot.check, nameSlot.check, issuerSlot.check, subjectSlot.check,
      plannedIdSlot.check]
  | .credentialUnchanged | .credentialDeleted =>
    [displayNameSlot.check, nameSlot.check, idSlot.check]
  | .identityAbsent => [displayNameSlot.check]

def readPlanned (make : String → Option ObjectId → Change) (src : Json.Source) :
    Except Mismatch Change := do
  let displayName ← src.get 0 displayNameSlot
  let id ← src.get 1 plannedIdSlot
  .ok (make displayName id)

def readObject (make : String → ObjectId → Change) (src : Json.Source) :
    Except Mismatch Change := do
  let displayName ← src.get 0 displayNameSlot
  let id ← src.get 1 idSlot
  .ok (make displayName id)

def readCredential (make : String → String → ObjectId → Change) (src : Json.Source) :
    Except Mismatch Change := do
  let displayName ← src.get 0 displayNameSlot
  let name ← src.get 1 nameSlot
  let id ← src.get 2 idSlot
  .ok (make displayName name id)

def read (src : Json.Source) : Kind → Except Mismatch Change
  | .applicationCreated => readPlanned .applicationCreated src
  | .applicationUnchanged => readObject .applicationUnchanged src
  | .applicationDeleted => readObject .applicationDeleted src
  | .principalCreated => readPlanned .principalCreated src
  | .principalUnchanged => readObject .principalUnchanged src
  | .principalDeleted => readObject .principalDeleted src
  | .credentialAdded => do
    let displayName ← src.get 0 displayNameSlot
    let name ← src.get 1 nameSlot
    let issuer ← src.get 2 issuerSlot
    let subject ← src.get 3 subjectSlot
    let id ← src.get 4 plannedIdSlot
    .ok (.credentialAdded displayName name issuer subject id)
  | .credentialUnchanged => readCredential .credentialUnchanged src
  | .credentialDeleted => readCredential .credentialDeleted src
  | .identityAbsent => do
    let displayName ← src.get 0 displayNameSlot
    .ok (.identityAbsent displayName)

def readKind (v : Json) : Except Mismatch Kind :=
  match v with
  | .string s =>
    match Kind.all.find? (·.name = s) with
    | some k => .ok k
    | none => .error (.unknownVariant s (Kind.all.map Kind.name))
  | v => .error (.invalidType v.found "variant identifier")

def expected (k : Kind) : String := "struct variant Change::" ++ k.label

/-- Reads a change from an object with its kind as one of the fields, or from an array that starts
with its kind. -/
def ofJson : Json → Except Mismatch Change
  | .object fields => do
    match Json.get? kindKey fields with
    | none => .error (.missingField kindKey)
    | some v =>
      let k ← readKind v
      let rest := Json.without [kindKey] fields
      Json.checkFields (checks k) rest
      read (.fields rest) k
  | .array [] => .error (.missingField kindKey)
  | .array (v :: items) => do
    let k ← readKind v
    let size := (checks k).length
    let change ← read (.items items (expected k ++ " with " ++ Json.elements size)) k
    if size < items.length then
      .error (.invalidLength items.length (Json.elements size ++ " in sequence"))
    else .ok change
  | v => .error (.invalidType v.found "internally tagged enum Change")

def fields : Change → List (String × Json)
  | .applicationCreated displayName id | .principalCreated displayName id =>
    [("display_name", .string displayName), ("object_id", Json.ofOption ObjectId.toJson id)]
  | .applicationUnchanged displayName id | .applicationDeleted displayName id
  | .principalUnchanged displayName id | .principalDeleted displayName id =>
    [("display_name", .string displayName), ("object_id", id.toJson)]
  | .credentialAdded displayName name issuer subject id =>
    [("display_name", .string displayName), ("name", .string name), ("issuer", .string issuer),
      ("subject", .string subject), ("object_id", Json.ofOption ObjectId.toJson id)]
  | .credentialUnchanged displayName name id | .credentialDeleted displayName name id =>
    [("display_name", .string displayName), ("name", .string name), ("object_id", id.toJson)]
  | .identityAbsent displayName => [("display_name", .string displayName)]

def toJson (c : Change) : Json := .object ((kindKey, .string c.kind.name) :: c.fields)

end Change

end Federation
