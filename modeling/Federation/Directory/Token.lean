import Federation.Directory.Cloud
import Federation.Directory.Error
import Federation.Json.Reader
import Federation.Text.Blank

namespace Federation

structure ToolResult where
  succeeded : Bool
  output : List UInt8
  complaints : List UInt8
  deriving DecidableEq, Repr

/-- What there is outside the program, with states of type `σ`. -/
structure Surroundings (σ : Type) where
  exchange : Http.Exchange σ
  runTool : List String → σ → Except String ToolResult × σ
  clock : σ → Nat

inductive TokenFault
  | unanswered (why : Http.FetchFault)
  | unreadable
  | refused (reason : String)
  | noTool (reason : String)
  | toolFailed (complaint : String)
  | toolUnreadable (why : Json.ReadError)
  | toolSilent
  deriving DecidableEq, Repr

def TokenFault.message : TokenFault → String
  | .unanswered why => "token request: " ++ why.message
  | .unreadable => "token decode: error decoding response body"
  | .refused reason => reason
  | .noTool reason =>
    "az CLI not found: " ++ reason ++ ". Install Azure CLI or pass client credentials."
  | .toolFailed complaint =>
    "az account get-access-token failed: " ++ complaint ++ ". Run 'az login' first."
  | .toolUnreadable why => "az CLI output parse: " ++ why.message
  | .toolSilent => "az CLI: no accessToken in output"

structure CachedToken where
  token : String
  expiry : Nat
  deriving DecidableEq, Repr

structure ClientSecret where
  address : String
  clientId : String
  secret : String
  scope : String
  deriving DecidableEq, Repr

namespace ClientSecret

def fields (c : ClientSecret) : List (String × String) :=
  [("grant_type", "client_credentials"), ("client_id", c.clientId), ("client_secret", c.secret),
    ("scope", c.scope)]

def message (c : ClientSecret) : Except Http.FetchFault Http.Message := do
  let url ← Http.requestUrl c.address none []
  .ok ⟨"POST", url, none, some "application/x-www-form-urlencoded",
    Text.toUtf8 (Http.Form.encode c.fields)⟩

/-- The lifetime in seconds that an answer gives a token, an hour unless it tells. -/
def lifetime (answer : Json) : Nat := ((answer.field "expires_in").asNat?).getD 3600

def margin : Nat := 60

def readAnswer (now : Nat) (a : Http.Answer) : Except TokenFault CachedToken :=
  match Json.ofBytes a.body with
  | .error _ => .error .unreadable
  | .ok v => match (v.field "access_token").asString? with
    | some token => .ok ⟨token, now + (lifetime v - margin)⟩
    | none =>
      let reason := (v.field "error_description").asString?.or (v.field "error").asString?
      .error (.refused (reason.getD "no access_token in response"))

def request {σ : Type} (c : ClientSecret) (w : Surroundings σ) (s : σ) :
    Except TokenFault CachedToken × σ :=
  match c.message with
  | .error why => (.error (.unanswered why), s)
  | .ok m =>
    let (r, s) := Http.fetch w.exchange m s
    match r with
    | .error why => (.error (.unanswered why), s)
    | .ok a => (readAnswer (w.clock s) a, s)

/-- The token on hand if it is still good, else a new one. A failure leaves the token on hand. -/
def token {σ : Type} (c : ClientSecret) (w : Surroundings σ) (onHand : Option CachedToken) (s : σ) :
    Except TokenFault String × Option CachedToken × σ :=
  match onHand.filter fun t => w.clock s < t.expiry with
  | some t => (.ok t.token, onHand, s)
  | none => match c.request w s with
    | (.ok t, s) => (.ok t.token, some t, s)
    | (.error why, s) => (.error why, onHand, s)

end ClientSecret

structure Login where
  tenantId : String
  resource : String
  deriving DecidableEq, Repr

namespace Login

def arguments (l : Login) : List String :=
  ["account", "get-access-token", "--resource", l.resource, "--tenant", l.tenantId, "--output",
    "json"]

def readResult (r : ToolResult) : Except TokenFault String :=
  if !r.succeeded then .error (.toolFailed (Text.trim (Text.ofUtf8Lossy r.complaints)))
  else match Json.ofBytes r.output with
    | .error why => .error (.toolUnreadable why)
    | .ok v => match (v.field "accessToken").asString? with
      | some token => .ok token
      | none => .error .toolSilent

def token {σ : Type} (l : Login) (w : Surroundings σ) (s : σ) : Except TokenFault String × σ :=
  match w.runTool l.arguments s with
  | (.error reason, s) => (.error (.noTool reason), s)
  | (.ok r, s) => (readResult r, s)

end Login

inductive TokenSource
  | fixed (token : String)
  | login (l : Login)
  | client (c : ClientSecret)
  deriving DecidableEq, Repr

namespace TokenSource

/-- The source for a directory: the client's secret when both parts of it are known, the login of
the operator otherwise. -/
def ofAccess (a : Access) : TokenSource :=
  match a.clientId, a.clientSecret with
  | some id, some key =>
    .client ⟨a.cloud.loginEndpoint ++ "/" ++ a.tenantId ++ "/oauth2/v2.0/token", id, key, a.scope⟩
  | _, _ => .login ⟨a.tenantId, a.cloud.graphEndpoint⟩

def token {σ : Type} (src : TokenSource) (w : Surroundings σ) (onHand : Option CachedToken) (s : σ) :
    Except TokenFault String × Option CachedToken × σ :=
  match src with
  | .fixed t => (.ok t, onHand, s)
  | .login l =>
    let (r, s) := l.token w s
    (r, onHand, s)
  | .client c => c.token w onHand s

end TokenSource

end Federation
