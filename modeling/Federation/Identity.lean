import Federation.Text.Blank

namespace Federation

def defaultAudience : String := "api://AzureADTokenExchange"

/-- What is asked for when a federated credential is added: tokens that the issuer signed for the
subject are trusted when they name one of the audiences. -/
structure CredentialSpec where
  name : String
  issuer : String
  subject : String
  audiences : List String
  description : Option String
  deriving DecidableEq, Repr

/-- A workload identity as an operator declares it: an application, its service principal of the
same display name, and the credentials that trust tokens from elsewhere. -/
structure WorkloadIdentity where
  displayName : String
  tags : List String
  credentials : List CredentialSpec
  deriving DecidableEq, Repr

inductive NameFault
  | length
  | character
  | start
  deriving DecidableEq, Repr

def NameFault.message : NameFault → String
  | .length => "must be 3-120 characters"
  | .character => "only letters, digits, '-' and '_' are allowed"
  | .start => "must start with a letter or digit"

inductive Violation
  | displayName
  | credentialName (name : String) (fault : NameFault)
  | issuer (url : String)
  | subject (credential : String)
  | audience (credential : String)
  deriving DecidableEq, Repr

def Violation.message : Violation → String
  | .displayName => "invalid display name: display name must not be empty"
  | .credentialName n fault =>
    "invalid federated credential name '" ++ n ++ "': " ++ fault.message
  | .issuer url => "invalid issuer '" ++ url ++ "': must be an https URL"
  | .subject n => "invalid subject: credential '" ++ n ++ "' has an empty subject"
  | .audience n => "federated credential '" ++ n ++ "' has no audiences"

def isNameChar (c : Char) : Bool := c.isAlphanum || c == '-' || c == '_'

def nameFault? (name : String) : Option NameFault :=
  let cs := name.toList
  if cs.length < 3 ∨ 120 < cs.length then some .length
  else if !cs.all isNameChar then some .character
  else if !(cs.head?.any Char.isAlphanum) then some .start
  else none

def httpsScheme : String := "https://"

def isIssuer (issuer : String) : Bool :=
  httpsScheme.toList.isPrefixOf issuer.toList && httpsScheme.length < issuer.length

namespace CredentialSpec

def basic (name issuer subject : String) : CredentialSpec :=
  ⟨name, issuer, subject, [defaultAudience], none⟩

def violation? (c : CredentialSpec) : Option Violation :=
  match nameFault? c.name with
  | some fault => some (.credentialName c.name fault)
  | none =>
    if !isIssuer c.issuer then some (.issuer c.issuer)
    else if Text.isBlank c.subject then some (.subject c.name)
    else if c.audiences.isEmpty || c.audiences.any Text.isBlank then some (.audience c.name)
    else none

end CredentialSpec

namespace WorkloadIdentity

/-- The first rule that an identity breaks: its display name is looked at before its
credentials. -/
def violation? (i : WorkloadIdentity) : Option Violation :=
  if Text.isBlank i.displayName then some .displayName
  else i.credentials.findSome? CredentialSpec.violation?

end WorkloadIdentity

def serviceAccountSubject (namespaceName account : String) : String :=
  "system:serviceaccount:" ++ namespaceName ++ ":" ++ account

end Federation
