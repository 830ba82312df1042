import Federation.Reconcile.Routine

namespace Federation

open Attempt

def deleting (dryRun : Bool) (c : Call) : Attempt Unit :=
  if dryRun then return else do
    let _ ← perform c
    return

def teardownCredentials (dryRun : Bool) (displayName : String) (app : Application) :
    List CredentialSpec → Attempt Unit
  | [] => return
  | spec :: rest => do
    match ← lookup (.getCredential app.id spec.issuer spec.subject) with
    | some credential =>
      deleting dryRun (.deleteCredential app.id credential.id)
      record (.credentialDeleted displayName credential.name credential.id)
    | none => pure ()
    teardownCredentials dryRun displayName app rest

/-- Deletes the service principal of an application; one that belongs to another application is
left in place. -/
def teardownPrincipal (dryRun : Bool) (app : Application) : Attempt Unit := do
  match ← lookup (.getServicePrincipal app.displayName) with
  | some principal =>
    if principal.appId = app.appId then
      deleting dryRun (.deleteServicePrincipal principal.id)
      record (.principalDeleted app.displayName principal.id)
  | none => pure ()

def teardown (identity : WorkloadIdentity) (dryRun : Bool) : Attempt Unit := do
  let name := identity.displayName
  match ← lookup (.getApplication name) with
  | none => record (.identityAbsent name)
  | some app =>
    teardownCredentials dryRun name app identity.credentials
    teardownPrincipal dryRun app
    deleting dryRun (.deleteApplication app.id)
    record (.applicationDeleted name app.id)

end Federation
