import Federation.Reconcile.Ensure

namespace Federation

open Attempt

def applicationChange (displayName : String) : Ensured Application → Change
  | .created app => .applicationCreated displayName (some app.id)
  | .existing app => .applicationUnchanged displayName app.id

def principalChange (displayName : String) : Ensured ServicePrincipal → Change
  | .created principal => .principalCreated displayName (some principal.id)
  | .existing principal => .principalUnchanged displayName principal.id

def addedChange (displayName : String) (spec : CredentialSpec) (id : Option ObjectId) : Change :=
  .credentialAdded displayName spec.name spec.issuer spec.subject id

/-- What is on record after a credential was ensured: one that was there keeps its own name. -/
def credentialChange (displayName : String) (spec : CredentialSpec) : Ensured Credential → Change
  | .created credential => addedChange displayName spec (some credential.id)
  | .existing credential => .credentialUnchanged displayName credential.name credential.id

def provisionCredentials (displayName : String) (app : Application) :
    List CredentialSpec → Attempt Unit
  | [] => return
  | spec :: rest => do
    record (credentialChange displayName spec (← ensureCredential app spec))
    provisionCredentials displayName app rest

def provision (identity : WorkloadIdentity) : Attempt Unit := do
  let name := identity.displayName
  let app ← ensureApplication name
  record (applicationChange name app)
  record (principalChange name (← ensureServicePrincipal app.get identity.tags))
  provisionCredentials name app.get identity.credentials

def planAll (identity : WorkloadIdentity) : Attempt Unit := do
  let name := identity.displayName
  record (.applicationCreated name none)
  record (.principalCreated name none)
  identity.credentials.forM fun spec => record (addedChange name spec none)

def planCredentials (displayName : String) (app : Application) : List CredentialSpec → Attempt Unit
  | [] => return
  | spec :: rest => do
    match ← lookup (.getCredential app.id spec.issuer spec.subject) with
    | some credential => record (.credentialUnchanged displayName credential.name credential.id)
    | none => record (addedChange displayName spec none)
    planCredentials displayName app rest

/-- Looks up what provisioning would find, and puts on record what it would do. -/
def planProvision (identity : WorkloadIdentity) : Attempt Unit := do
  let name := identity.displayName
  match ← lookup (.getApplication name) with
  | none => planAll identity
  | some app =>
    record (.applicationUnchanged name app.id)
    match ← lookup (.getServicePrincipal name) with
    | some principal =>
      if principal.appId = app.appId then record (.principalUnchanged name principal.id)
      else throw (.appIdMismatch name app.appId principal.appId)
    | none => record (.principalCreated name none)
    planCredentials name app identity.credentials

end Federation
