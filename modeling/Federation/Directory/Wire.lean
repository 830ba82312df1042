import Federation.Directory.Object
import Federation.Json.Record

namespace Federation

open Json (Slot)

def ObjectId.ofJson (v : Json) : Except Mismatch ObjectId := (Json.readString v).map ObjectId.mk

def ObjectId.toJson (id : ObjectId) : Json := .string id.text

def ObjectKind.name : ObjectKind → String
  | .application => "application"
  | .servicePrincipal => "servicePrincipal"

def ObjectKind.ofJson : Json → Except Mismatch ObjectKind :=
  Json.readName ([ObjectKind.application, .servicePrincipal].map fun k => (k.name, k))

def ObjectKind.toJson (k : ObjectKind) : Json := .string k.name

namespace Wire

def idSlot : Slot ObjectId := .required "id" ObjectId.ofJson
def appIdSlot : Slot String := .required "appId" Json.readString
def displayNameSlot : Slot String := .defaulted "displayName" Json.readString ""
def optionalDisplayNameSlot : Slot (Option String) :=
  .defaulted "displayName" (Json.readOption Json.readString) none
def tagsSlot : Slot (List String) := .defaulted "tags" (Json.readList Json.readString) []
def nameSlot : Slot String := .required "name" Json.readString
def optionalNameSlot : Slot String := .defaulted "name" Json.readString ""
def issuerSlot : Slot String := .required "issuer" Json.readString
def subjectSlot : Slot String := .required "subject" Json.readString
def audiencesSlot : Slot (List String) := .required "audiences" (Json.readList Json.readString)
def optionalAudiencesSlot : Slot (List String) :=
  .defaulted "audiences" (Json.readList Json.readString) []
def descriptionSlot : Slot (Option String) :=
  .defaulted "description" (Json.readOption Json.readString) none

end Wire

open Wire

namespace Application

def keys : List String := ["id", "appId", "displayName"]

def ofJson : Json → Except Mismatch Application :=
  Json.readOpenRecord "struct Application" [idSlot.check, appIdSlot.check, displayNameSlot.check]
    fun fields => do
      let src := Json.Source.fields fields
      let id ← src.get 0 idSlot
      let appId ← src.get 1 appIdSlot
      let displayName ← src.get 2 displayNameSlot
      .ok ⟨id, appId, displayName, Json.without keys fields⟩

def toJson (a : Application) : Json :=
  .object ([("id", a.id.toJson), ("appId", .string a.appId),
    ("displayName", .string a.displayName)] ++ a.additional)

end Application

namespace ServicePrincipal

def keys : List String := ["id", "appId", "displayName", "tags"]

def ofJson : Json → Except Mismatch ServicePrincipal :=
  Json.readOpenRecord "struct ServicePrincipal"
    [idSlot.check, appIdSlot.check, optionalDisplayNameSlot.check, tagsSlot.check]
    fun fields => do
      let src := Json.Source.fields fields
      let id ← src.get 0 idSlot
      let appId ← src.get 1 appIdSlot
      let displayName ← src.get 2 optionalDisplayNameSlot
      let tags ← src.get 3 tagsSlot
      .ok ⟨id, appId, displayName, tags, Json.without keys fields⟩

def toJson (p : ServicePrincipal) : Json :=
  .object ([("id", p.id.toJson), ("appId", .string p.appId),
    ("displayName", Json.ofOption .string p.displayName), ("tags", Json.ofStrings p.tags)] ++
    p.additional)

end ServicePrincipal

namespace Credential

def keys : List String := ["id", "name", "issuer", "subject", "audiences", "description"]

def ofJson : Json → Except Mismatch Credential :=
  Json.readOpenRecord "struct FederatedIdentityCredential"
    [idSlot.check, optionalNameSlot.check, issuerSlot.check, subjectSlot.check,
      optionalAudiencesSlot.check, descriptionSlot.check]
    fun fields => do
      let src := Json.Source.fields fields
      let id ← src.get 0 idSlot
      let name ← src.get 1 optionalNameSlot
      let issuer ← src.get 2 issuerSlot
      let subject ← src.get 3 subjectSlot
      let audiences ← src.get 4 optionalAudiencesSlot
      let description ← src.get 5 descriptionSlot
      .ok ⟨id, name, issuer, subject, audiences, description, Json.without keys fields⟩

def toJson (c : Credential) : Json :=
  .object ([("id", c.id.toJson), ("name", .string c.name), ("issuer", .string c.issuer),
    ("subject", .string c.subject), ("audiences", Json.ofStrings c.audiences),
    ("description", Json.ofOption .string c.description)] ++ c.additional)

end Credential

namespace CredentialSpec

def ofJson : Json → Except Mismatch CredentialSpec :=
  Json.readRecord "struct FederatedCredentialSpec"
    [nameSlot.check, issuerSlot.check, subjectSlot.check, audiencesSlot.check,
      descriptionSlot.check]
    fun src => do
      let name ← src.get 0 nameSlot
      let issuer ← src.get 1 issuerSlot
      let subject ← src.get 2 subjectSlot
      let audiences ← src.get 3 audiencesSlot
      let description ← src.get 4 descriptionSlot
      .ok ⟨name, issuer, subject, audiences, description⟩

def toJson (c : CredentialSpec) : Json :=
  .object ([("name", .string c.name), ("issuer", .string c.issuer), ("subject", .string c.subject),
    ("audiences", Json.ofStrings c.audiences)] ++
    c.description.toList.map fun d => ("description", .string d))

end CredentialSpec

namespace WorkloadIdentity

def nameSlot : Slot String := .required "display_name" Json.readString
def tagsSlot : Slot (List String) := .required "tags" (Json.readList Json.readString)
def credentialsSlot : Slot (List CredentialSpec) :=
  .required "federated_credentials" (Json.readList CredentialSpec.ofJson)

def ofJson : Json → Except Mismatch WorkloadIdentity :=
  Json.readRecord "struct WorkloadIdentity" [nameSlot.check, tagsSlot.check, credentialsSlot.check]
    fun src => do
      let displayName ← src.get 0 nameSlot
      let tags ← src.get 1 tagsSlot
      let credentials ← src.get 2 credentialsSlot
      .ok ⟨displayName, tags, credentials⟩

def toJson (i : WorkloadIdentity) : Json :=
  .object [("display_name", .string i.displayName), ("tags", Json.ofStrings i.tags),
    ("federated_credentials", Json.ofList CredentialSpec.toJson i.credentials)]

end WorkloadIdentity

end Federation
