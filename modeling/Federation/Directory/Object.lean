import Federation.Identity
import Federation.Json.Basic

namespace Federation

/-- The key under which the directory keeps an object. Deletes and nested paths use it, never a
display name. -/
structure ObjectId where
  text : String
  deriving DecidableEq, Repr

inductive ObjectKind
  | application
  | servicePrincipal
  deriving DecidableEq, Repr

def ObjectKind.noun : ObjectKind → String
  | .application => "application"
  | .servicePrincipal => "service principal"

structure Application where
  id : ObjectId
  appId : String
  displayName : String
  additional : List (String × Json)
  deriving DecidableEq

structure ServicePrincipal where
  id : ObjectId
  appId : String
  displayName : Option String
  tags : List String
  additional : List (String × Json)
  deriving DecidableEq

structure Credential where
  id : ObjectId
  name : String
  issuer : String
  subject : String
  audiences : List String
  description : Option String
  additional : List (String × Json)
  deriving DecidableEq

def insertText (s : String) : List String → List String
  | [] => [s]
  | t :: rest => if s < t then s :: t :: rest else if s = t then t :: rest else t :: insertText s rest

def tagSet (tags : List String) : List String := tags.foldr insertText []

namespace ServicePrincipal

def tagSet (p : ServicePrincipal) : List String := Federation.tagSet p.tags

end ServicePrincipal

namespace Credential

/-- A credential is looked up by its issuer and subject together. -/
def answers (c : Credential) (issuer subject : String) : Bool :=
  c.issuer == issuer && c.subject == subject

end Credential

end Federation
