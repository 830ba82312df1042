import Federation.Declaration.Draft
import Federation.Identity

namespace Federation

/-- What an operator declares: how the directory is reached, and the identities it is to hold. -/
structure Declaration where
  settings : Declaration.Settings
  identities : List WorkloadIdentity
  deriving DecidableEq, Repr

namespace Declaration

inductive Conflict
  | repeatedIdentity (identity : String)
  | twoSubjects (identity credential : String)
  | noSubject (identity credential : String)
  | repeatedName (identity credential : String)
  | repeatedKey (identity credential issuer subject : String)
  deriving DecidableEq, Repr

def Conflict.message : Conflict → String
  | .repeatedIdentity i => "duplicate identity '" ++ i ++ "'"
  | .twoSubjects i c =>
    "identity '" ++ i ++ "': credential '" ++ c ++ "' sets both subject and service_account"
  | .noSubject i c =>
    "identity '" ++ i ++ "': credential '" ++ c ++ "' needs a subject or a service_account"
  | .repeatedName i c => "identity '" ++ i ++ "': duplicate credential name '" ++ c ++ "'"
  | .repeatedKey i c issuer subject =>
    "identity '" ++ i ++ "': credential '" ++ c ++ "' repeats issuer '" ++ issuer ++
      "' and subject '" ++ subject ++ "'"

inductive Refusal
  | conflict (c : Conflict)
  | violation (v : Violation)
  deriving DecidableEq, Repr

def CredentialDraft.subjectText (identity : String) (d : CredentialDraft) :
    Except Refusal String :=
  match d.subject, d.serviceAccount with
  | some s, none => .ok s
  | none, some a => .ok (serviceAccountSubject a.namespaceName a.name)
  | some _, some _ => .error (.conflict (.twoSubjects identity d.name))
  | none, none => .error (.conflict (.noSubject identity d.name))

def CredentialDraft.spec (identity : String) (d : CredentialDraft) :
    Except Refusal CredentialSpec := do
  let subject ← d.subjectText identity
  .ok ⟨d.name, d.issuer, subject, d.audiences.getD [defaultAudience], d.description⟩

def credentialsAfter (identity : String) :
    List CredentialSpec → List CredentialDraft → Except Refusal (List CredentialSpec)
  | _, [] => .ok []
  | earlier, d :: ds => do
    let c ← d.spec identity
    if c.name ∈ earlier.map (·.name) then .error (.conflict (.repeatedName identity c.name))
    else if (c.issuer, c.subject) ∈ earlier.map fun e => (e.issuer, e.subject) then
      .error (.conflict (.repeatedKey identity c.name c.issuer c.subject))
    else
      let cs ← credentialsAfter identity (c :: earlier) ds
      .ok (c :: cs)

def IdentityDraft.identity (d : IdentityDraft) : Except Refusal WorkloadIdentity := do
  let credentials ← credentialsAfter d.name [] d.credentials
  let i : WorkloadIdentity := ⟨d.name, d.tags, credentials⟩
  match i.violation? with
  | some v => .error (.violation v)
  | none => .ok i

def identitiesAfter : List String → List IdentityDraft → Except Refusal (List WorkloadIdentity)
  | _, [] => .ok []
  | earlier, d :: ds => do
    if d.name ∈ earlier then .error (.conflict (.repeatedIdentity d.name))
    else
      let i ← d.identity
      let is ← identitiesAfter (d.name :: earlier) ds
      .ok (i :: is)

/-- The declaration that a draft makes; of several faults the first in the file is told. -/
def Draft.declaration (d : Draft) : Except Refusal Declaration := do
  let identities ← identitiesAfter [] d.identities
  .ok ⟨d.directory.getD ⟨none, none⟩, identities⟩

end Declaration

end Federation
