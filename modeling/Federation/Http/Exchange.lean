import Federation.Http.Url

namespace Federation.Http

/-- Why a request did not lead to an answer. The reasons are each caused by the next. -/
inductive FetchFault
  | unanswered (url : String) (reasons : List String)
  | unusable (url : Option String) (reasons : List String)
  deriving DecidableEq, Repr

namespace FetchFault

def message : FetchFault → String
  | .unanswered url _ => "error sending request for url (" ++ url ++ ")"
  | .unusable (some url) _ => "builder error for url (" ++ url ++ ")"
  | .unusable none _ => "builder error"

def causes : FetchFault → List String
  | .unanswered _ reasons | .unusable _ reasons => reasons

end FetchFault

structure Message where
  method : String
  url : Url
  authorization : Option String
  contentType : Option String
  body : List UInt8
  deriving DecidableEq, Repr

structure Answer where
  status : Nat
  body : List UInt8
  deriving DecidableEq, Repr

abbrev Exchange (σ : Type) : Type := Message → σ → Except (List String) Answer × σ

def isHttp (scheme : String) : Bool := scheme == "http" || scheme == "https"

def unknownScheme : String := "URL scheme is not allowed"

def unsendable : String := "Parsed Url is not a valid Uri"

def maxAddressLength : Nat := 65534

def isSendable (u : Url) : Bool :=
  u.text.utf8ByteSize ≤ maxAddressLength &&
    u.host.all fun h => !h.toList.any ['"', '`', '\x7b', '\x7d'].contains

def isHeaderValue (s : String) : Bool :=
  s.toList.all fun c => c == '\t' || (0x20 ≤ c.toNat && c.toNat ≠ 0x7F)

def requestUrl (address : String) (authorization : Option String) (fields : List (String × String)) :
    Except FetchFault Url := do
  let url ← (Url.ofText address).mapError fun why => .unusable none [why.message]
  if !url.hasHost then .error (.unusable (some url.text) [unknownScheme])
  else if !authorization.all isHeaderValue then
    .error (.unusable none ["failed to parse header value"])
  else
    let url := url.withoutCredentials
    let url := if fields.isEmpty then url else url.addFields fields
    if !isHttp url.scheme then .error (.unusable (some url.text) [unknownScheme])
    else if !isSendable url then .error (.unusable (some url.text) [unsendable])
    else .ok url

/-- Has a request answered. -/
def fetch {σ : Type} (exchange : Exchange σ) (m : Message) (s : σ) : Except FetchFault Answer × σ :=
  let (r, s) := exchange m s
  (r.mapError fun reasons => .unanswered m.url.text reasons, s)

end Federation.Http
