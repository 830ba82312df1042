import Federation.Declaration.Draft
import Federation.Yaml.Reader

namespace Federation.Declaration

open Yaml Yaml.Reader

abbrev AccountFields : Type := Option String × Option String

def accountFields : List (Member AccountFields) :=
  [ field "namespace" (·.1) (fun r a => (some a, r.2)) string,
    field "name" (·.2) (fun r a => (r.1, some a)) string ]

def ServiceAccount.reader : Reader ServiceAccount :=
  record "struct RawServiceAccount" accountFields (none, none) fun r => do
    .ok ⟨← needed "namespace" r.1, ← needed "name" r.2⟩

structure CredentialFields where
  name : Option String
  issuer : Option String
  subject : Option (Option String)
  serviceAccount : Option (Option ServiceAccount)
  audiences : Option (Option (List String))
  description : Option (Option String)

def credentialFields : List (Member CredentialFields) :=
  [ field "name" (·.name) (fun r a => { r with name := some a }) string,
    field "issuer" (·.issuer) (fun r a => { r with issuer := some a }) string,
    field "subject" (·.subject) (fun r a => { r with subject := some a }) (option string),
    field "service_account" (·.serviceAccount) (fun r a => { r with serviceAccount := some a })
      (option ServiceAccount.reader),
    field "audiences" (·.audiences) (fun r a => { r with audiences := some a })
      (option (list string)),
    field "description" (·.description) (fun r a => { r with description := some a })
      (option string) ]

def CredentialDraft.reader : Reader CredentialDraft :=
  record "struct RawCredential" credentialFields ⟨none, none, none, none, none, none⟩ fun r => do
    .ok ⟨← needed "name" r.name, ← needed "issuer" r.issuer, r.subject.join,
      r.serviceAccount.join, r.audiences.join, r.description.join⟩

structure IdentityFields where
  name : Option String
  tags : Option (List String)
  credentials : Option (List CredentialDraft)

def identityFields : List (Member IdentityFields) :=
  [ field "name" (·.name) (fun r a => { r with name := some a }) string,
    field "tags" (·.tags) (fun r a => { r with tags := some a }) (list string),
    field "federated_credentials" (·.credentials) (fun r a => { r with credentials := some a })
      (list CredentialDraft.reader) ]

def IdentityDraft.reader : Reader IdentityDraft :=
  record "struct RawIdentity" identityFields ⟨none, none, none⟩ fun r => do
    .ok ⟨← needed "name" r.name, r.tags.getD [], r.credentials.getD []⟩

abbrev SettingsFields : Type := Option (Option Cloud) × Option (Option String)

def settingsFields : List (Member SettingsFields) :=
  [ field "cloud" (·.1) (fun r a => (some a, r.2)) (option (choice Cloud.names)),
    field "tenant_id" (·.2) (fun r a => (r.1, some a)) (option string) ]

def Settings.reader : Reader Settings :=
  record "struct RawDirectory" settingsFields (none, none) fun r => .ok ⟨r.1.join, r.2.join⟩

/-- The parts of a file that have been read so far. -/
abbrev DraftFields : Type := Option (Option Settings) × Option (List IdentityDraft)

def draftFields : List (Member DraftFields) :=
  [ field "directory" (·.1) (fun r a => (some a, r.2)) (option Settings.reader),
    field "identities" (·.2) (fun r a => (r.1, some a)) (list IdentityDraft.reader) ]

def Draft.reader : Reader Draft :=
  record "struct RawFile" draftFields (none, none) fun r => .ok ⟨r.1.join, r.2.getD []⟩

end Federation.Declaration
