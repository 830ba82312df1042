import Federation.Directory.Cloud

namespace Federation.Declaration

structure ServiceAccount where
  namespaceName : String
  name : String
  deriving DecidableEq, Repr

structure CredentialDraft where
  name : String
  issuer : String
  subject : Option String
  serviceAccount : Option ServiceAccount
  /-- Stands for the default audience when absent. -/
  audiences : Option (List String)
  description : Option String
  deriving DecidableEq, Repr

structure IdentityDraft where
  name : String
  tags : List String
  credentials : List CredentialDraft
  deriving DecidableEq, Repr

structure Settings where
  cloud : Option Cloud
  tenantId : Option String
  deriving DecidableEq, Repr

structure Draft where
  directory : Option Settings
  identities : List IdentityDraft
  deriving DecidableEq, Repr

end Federation.Declaration
