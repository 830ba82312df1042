import Federation.Json.Record

namespace Federation

inductive Cloud
  | worldwide
  | usGovernment
  | china
  deriving DecidableEq, Repr

namespace Cloud

def all : List Cloud := [.worldwide, .usGovernment, .china]

def name : Cloud → String
  | .worldwide => "public"
  | .usGovernment => "usgov"
  | .china => "china"

def names : List (String × Cloud) := all.map fun c => (c.name, c)

def graphEndpoint : Cloud → String
  | .worldwide => "https://graph.microsoft.com"
  | .usGovernment => "https://graph.microsoft.us"
  | .china => "https://microsoftgraph.chinacloudapi.cn"

def loginEndpoint : Cloud → String
  | .worldwide => "https://login.microsoftonline.com"
  | .usGovernment => "https://login.microsoftonline.us"
  | .china => "https://login.chinacloudapi.cn"

def ofJson : Json → Except Mismatch Cloud := Json.readName names

def toJson (c : Cloud) : Json := .string c.name

end Cloud

/-- How a directory is reached. -/
structure Access where
  tenantId : String
  cloud : Cloud
  graphEndpoint : Option String
  apiVersion : String
  /-- Without both of these the login of the command line tool is used. -/
  clientId : Option String
  clientSecret : Option String
  timeoutSeconds : Nat
  deriving DecidableEq, Repr

def trimSlashes (s : String) : String :=
  String.ofList ((s.toList.reverse.dropWhile (· == '/')).reverse)

namespace Access

def basic (tenantId : String) : Access := ⟨tenantId, .worldwide, none, "v1.0", none, none, 30⟩

def baseUrl (a : Access) : String :=
  trimSlashes (a.graphEndpoint.getD a.cloud.graphEndpoint) ++ "/" ++ a.apiVersion

def scope (a : Access) : String := a.cloud.graphEndpoint ++ "/.default"

end Access

end Federation
