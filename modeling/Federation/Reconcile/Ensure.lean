import Federation.Reconcile.Routine

namespace Federation

/-- An object that was looked up, and created if it was not there. -/
inductive Ensured (α : Type)
  | existing (a : α)
  | created (a : α)
  deriving DecidableEq, Repr

namespace Ensured

variable {α : Type}

def get : Ensured α → α
  | .existing a | .created a => a

def wasCreated : Ensured α → Bool
  | .existing _ => false
  | .created _ => true

end Ensured

def applicationKey (displayName : String) : String := "application:" ++ displayName

def principalKey (displayName : String) : String := "servicePrincipal:" ++ displayName

def credentialKey (application : ObjectId) (issuer subject : String) : String :=
  "federatedCredential:" ++ application.text ++ ":" ++ issuer ++ ":" ++ subject

open Attempt

def ensureApplication (displayName : String) : Attempt (Ensured Application) :=
  holding (applicationKey displayName) do
    match ← lookup (.getApplication displayName) with
    | some app => return .existing app
    | none => return .created (← perform (.createApplication displayName))

/-- Looks a service principal up by the name of its application and creates it if there is none.
One that belongs to another application is an error; other tags are not. -/
def ensureServicePrincipal (app : Application) (tags : List String) :
    Attempt (Ensured ServicePrincipal) :=
  holding (principalKey app.displayName) do
    match ← lookup (.getServicePrincipal app.displayName) with
    | some principal =>
      if principal.appId = app.appId then return .existing principal
      else throw (.appIdMismatch app.displayName app.appId principal.appId)
    | none => return .created (← perform (.createServicePrincipal app.appId tags))

/-- Looks a credential of an application up by issuer and subject and adds it if there is none.
Adding answers nothing, so the credential is looked up again. -/
def ensureCredential (app : Application) (spec : CredentialSpec) : Attempt (Ensured Credential) :=
  holding (credentialKey app.id spec.issuer spec.subject) do
    match ← lookup (.getCredential app.id spec.issuer spec.subject) with
    | some credential => return .existing credential
    | none =>
      perform (.addCredential app.id spec)
      return .created (← perform (.getCredential app.id spec.issuer spec.subject))

end Federation
