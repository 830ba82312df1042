import Federation.Directory.Call

namespace Federation

/-- An object made by a store, by what its identifiers are named after. -/
inductive Minted
  | application (displayName : String)
  | principal (displayName : Option String)
  | credential (application : ObjectId) (name : String)
  deriving DecidableEq, Repr

/-- How a store names what it makes: the number counts the objects named after the same. -/
structure Naming where
  applicationId : String → Nat → ObjectId
  appId : String → Nat → String
  principalId : Option String → Nat → ObjectId
  credentialId : ObjectId → String → Nat → ObjectId

/-- A directory held in memory. All lists are in the order of creation. -/
structure Store where
  applications : List Application
  principals : List ServicePrincipal
  /-- Each credential with the object id of its application. -/
  credentials : List (ObjectId × Credential)
  minted : List Minted
  deriving DecidableEq

namespace Store

def empty : Store := ⟨[], [], [], []⟩

def resourceNotFound (id : ObjectId) : DirectoryError :=
  .service (.basic "Request_ResourceNotFound" ("Resource '" ++ id.text ++
    "' does not exist or one of its queried reference-property objects are not present."))

def noSuchApplication (appId : String) : DirectoryError :=
  .service (.basic "Request_BadRequest" ("The appId '" ++ appId ++
    "' of the service principal does not reference a valid application object."))

def credentialExists (name : String) : DirectoryError :=
  .service (.basic "Request_MultipleObjectsWithSameKeyValue"
    ("FederatedIdentityCredential with name " ++ name ++ " already exists."))

def credentialsOf (s : Store) (application : ObjectId) : List Credential :=
  s.credentials.filterMap fun (owner, c) => if owner = application then some c else none

def hasApplication (s : Store) (id : ObjectId) : Bool := s.applications.any (·.id = id)

def createApplication (names : Naming) (displayName : String) (s : Store) :
    Except DirectoryError Application × Store :=
  let n := s.minted.count (.application displayName)
  let app : Application :=
    ⟨names.applicationId displayName n, names.appId displayName n, displayName, []⟩
  (.ok app, { s with
    applications := s.applications ++ [app]
    minted := s.minted ++ [.application displayName] })

def getApplication (displayName : String) (s : Store) : Except DirectoryError Application :=
  match s.applications.find? (·.displayName = displayName) with
  | some app => .ok app
  | none => .error (.notFound .application displayName)

def deleteApplication (id : ObjectId) (s : Store) : Except DirectoryError Unit × Store :=
  if s.hasApplication id then
    (.ok (), { s with
      applications := s.applications.filter (·.id ≠ id)
      credentials := s.credentials.filter (·.1 ≠ id) })
  else (.error (resourceNotFound id), s)

def createServicePrincipal (names : Naming) (appId : String) (tags : List String) (s : Store) :
    Except DirectoryError ServicePrincipal × Store :=
  match s.applications.find? (·.appId = appId) with
  | none => (.error (noSuchApplication appId), s)
  | some app =>
    let name := some app.displayName
    let n := s.minted.count (.principal name)
    let principal : ServicePrincipal := ⟨names.principalId name n, appId, name, tags, []⟩
    (.ok principal, { s with
      principals := s.principals ++ [principal]
      minted := s.minted ++ [.principal name] })

def getServicePrincipal (displayName : String) (s : Store) :
    Except DirectoryError ServicePrincipal :=
  match s.principals.find? (·.displayName = some displayName) with
  | some principal => .ok principal
  | none => .error (.notFound .servicePrincipal displayName)

def deleteServicePrincipal (id : ObjectId) (s : Store) : Except DirectoryError Unit × Store :=
  if s.principals.any (·.id = id) then
    (.ok (), { s with principals := s.principals.filter (·.id ≠ id) })
  else (.error (resourceNotFound id), s)

def addCredential (names : Naming) (application : ObjectId) (spec : CredentialSpec) (s : Store) :
    Except DirectoryError Unit × Store :=
  if !s.hasApplication application then (.error (resourceNotFound application), s)
  else if (s.credentialsOf application).any (·.name = spec.name) then
    (.error (credentialExists spec.name), s)
  else
    let n := s.minted.count (.credential application spec.name)
    let credential : Credential :=
      ⟨names.credentialId application spec.name n, spec.name, spec.issuer, spec.subject,
        spec.audiences, spec.description, []⟩
    (.ok (), { s with
      credentials := s.credentials ++ [(application, credential)]
      minted := s.minted ++ [.credential application spec.name] })

/-- The subject is compared first, as a server would, and the issuer then. -/
def getCredential (application : ObjectId) (issuer subject : String) (s : Store) :
    Except DirectoryError Credential :=
  if !s.hasApplication application then .error (resourceNotFound application)
  else
    match ((s.credentialsOf application).filter (·.subject = subject)).find? (·.issuer = issuer) with
    | some c => .ok c
    | none => .error (.credentialNotFound issuer subject)

def deleteCredential (application id : ObjectId) (s : Store) : Except DirectoryError Unit × Store :=
  if (s.credentialsOf application).any (·.id = id) then
    (.ok (), { s with
      credentials := s.credentials.filter fun (owner, c) => !(owner = application && c.id = id) })
  else (.error (resourceNotFound id), s)

def behaviour (names : Naming) : Behaviour Store
  | .createServicePrincipal appId tags, s => s.createServicePrincipal names appId tags
  | .getServicePrincipal displayName, s => (s.getServicePrincipal displayName, s)
  | .deleteServicePrincipal id, s => s.deleteServicePrincipal id
  | .createApplication displayName, s => s.createApplication names displayName
  | .getApplication displayName, s => (s.getApplication displayName, s)
  | .deleteApplication id, s => s.deleteApplication id
  | .addCredential application spec, s => s.addCredential names application spec
  | .getCredential application issuer subject, s => (s.getCredential application issuer subject, s)
  | .deleteCredential application id, s => s.deleteCredential application id

end Store

end Federation
