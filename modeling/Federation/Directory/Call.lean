import Federation.Directory.Error

namespace Federation

/-- The calls of a directory that managing identities needs. Creating is not idempotent. -/
inductive Call
  | createServicePrincipal (appId : String) (tags : List String)
  | getServicePrincipal (displayName : String)
  | deleteServicePrincipal (id : ObjectId)
  | createApplication (displayName : String)
  | getApplication (displayName : String)
  | deleteApplication (id : ObjectId)
  | addCredential (application : ObjectId) (spec : CredentialSpec)
  | getCredential (application : ObjectId) (issuer subject : String)
  | deleteCredential (application id : ObjectId)
  deriving DecidableEq, Repr

namespace Call

abbrev Answer : Call → Type
  | .createServicePrincipal .. | .getServicePrincipal _ => ServicePrincipal
  | .createApplication _ | .getApplication _ => Application
  | .getCredential .. => Credential
  | .deleteServicePrincipal _ | .deleteApplication _ | .addCredential .. | .deleteCredential .. =>
    Unit

abbrev Outcome (c : Call) : Type := Except DirectoryError c.Answer

inductive Kind
  | createServicePrincipal
  | getServicePrincipal
  | deleteServicePrincipal
  | createApplication
  | getApplication
  | deleteApplication
  | addCredential
  | getCredential
  | deleteCredential
  deriving DecidableEq, Repr

def kind : Call → Kind
  | .createServicePrincipal .. => .createServicePrincipal
  | .getServicePrincipal _ => .getServicePrincipal
  | .deleteServicePrincipal _ => .deleteServicePrincipal
  | .createApplication _ => .createApplication
  | .getApplication _ => .getApplication
  | .deleteApplication _ => .deleteApplication
  | .addCredential .. => .addCredential
  | .getCredential .. => .getCredential
  | .deleteCredential .. => .deleteCredential

def Kind.isLookup : Kind → Bool
  | .getServicePrincipal | .getApplication | .getCredential => true
  | _ => false

def isDelete : Call → Bool
  | .deleteApplication _ | .deleteServicePrincipal _ | .deleteCredential .. => true
  | _ => false

end Call

/-- A directory with states of type `σ`: how it answers each call, and the state it is left in. -/
abbrev Behaviour (σ : Type) : Type := (c : Call) → σ → c.Outcome × σ

end Federation
