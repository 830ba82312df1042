import Federation.Directory.Object
import Federation.Directory.ServiceError
import Federation.Http.Exchange
import Federation.Json.Printer

namespace Federation

inductive Verb
  | get
  | post
  | delete
  deriving DecidableEq, Repr

def Verb.name : Verb → String
  | .get => "GET"
  | .post => "POST"
  | .delete => "DELETE"

inductive TransportError
  | cancelled
  | request (verb : Verb) (url : String) (fault : Http.FetchFault)
  | status (code : Nat) (body : String)
  | token (reason : String)
  deriving DecidableEq, Repr

def TransportError.message : TransportError → String
  | .cancelled => "request cancelled"
  | .request verb url fault => verb.name ++ " " ++ url ++ ": " ++ fault.message
  | .status code body => "unexpected status " ++ toString code ++ ": " ++ body
  | .token reason => "token acquisition failed: " ++ reason

def TransportError.causes : TransportError → List String
  | .request _ _ fault => fault.message :: fault.causes
  | _ => []

inductive BodyFault
  | envelopeKind (found : Json)
  | envelopeShape (why : Mismatch)
  | empty
  | notObject (body : Json)
  | shape (why : Mismatch)
  | other (reason : String)
  deriving DecidableEq

def Json.noun : Json → String
  | .null => "null"
  | .bool _ => "a boolean"
  | .integer _ | .double _ => "a number"
  | .string _ => "a string"
  | .array _ => "an array"
  | .object _ => "an object"

def Json.bodyText : Json → String
  | .string s => s
  | v => v.compact

def BodyFault.message : BodyFault → String
  | .envelopeKind v => "error envelope: expected an object, found " ++ v.noun
  | .envelopeShape why => "error envelope: " ++ why.message
  | .empty => "empty response body"
  | .notObject v => "expected a JSON object, got: " ++ v.bodyText
  | .shape why => why.message
  | .other reason => reason

/-- Why a call of the directory failed. -/
inductive DirectoryError
  | transport (why : TransportError)
  | service (e : ServiceError)
  | notFound (kind : ObjectKind) (displayName : String)
  | credentialNotFound (issuer subject : String)
  | body (why : BodyFault)
  deriving DecidableEq

namespace DirectoryError

def message : DirectoryError → String
  | .transport why => "transport error: " ++ why.message
  | .service e => "directory service error: " ++ e.text
  | .notFound kind name => kind.noun ++ " with display name '" ++ name ++ "' not found"
  | .credentialNotFound issuer subject =>
    "federated credential not found (issuer '" ++ issuer ++ "', subject '" ++ subject ++ "')"
  | .body why => "decode error: " ++ why.message

def causes : DirectoryError → List String
  | .transport why => why.message :: why.causes
  | _ => []

/-- Whether the error says that a lookup came back empty. -/
def isNotFound : DirectoryError → Bool
  | .notFound .. | .credentialNotFound .. => true
  | _ => false

def isCancelled : DirectoryError → Bool
  | .transport .cancelled => true
  | _ => false

end DirectoryError

end Federation
