import Federation.Directory.Gateway
import Federation.Directory.Token

namespace Federation

/-- A directory that is reached over HTTP. -/
structure Remote where
  base : String
  source : TokenSource
  deriving DecidableEq, Repr

structure Connection (σ : Type) where
  onHand : Option CachedToken
  outside : σ

namespace Remote

def ofAccess (a : Access) : Remote := ⟨a.baseUrl, .ofAccess a⟩

/-- The value that a body stands for: nothing when it is empty, and its text when it is no JSON. -/
def readBody (bs : List UInt8) : Json :=
  if bs.isEmpty then .null
  else match Json.ofBytes bs with
    | .ok v => v
    | .error _ => .string (Text.ofUtf8Lossy bs)

def address (r : Remote) (q : Request) : String := r.base ++ q.path

def message (r : Remote) (q : Request) (token : String) : Except Http.FetchFault Http.Message := do
  let authorization := "Bearer " ++ token
  let fields := q.filter.toList.map fun f => ("$filter", f.text)
  let url ← Http.requestUrl (r.address q) (some authorization) fields
  let body := (q.body.map fun b => Text.toUtf8 b.canonical.compact).getD []
  .ok ⟨q.verb.name, url, some authorization, q.body.map fun _ => "application/json", body⟩

def send {σ : Type} (r : Remote) (w : Surroundings σ) : Transport (Connection σ) := fun q c =>
  let (t, onHand, s) := r.source.token w c.onHand c.outside
  match t with
  | .error why => (.error (.token why.message), ⟨onHand, s⟩)
  | .ok token =>
    let failed (why : Http.FetchFault) : TransportError := .request q.verb (r.address q) why
    match r.message q token with
    | .error why => (.error (failed why), ⟨onHand, s⟩)
    | .ok m =>
      let (a, s) := Http.fetch w.exchange m s
      match a with
      | .error why => (.error (failed why), ⟨onHand, s⟩)
      | .ok a => (.ok ⟨a.status, readBody a.body⟩, ⟨onHand, s⟩)

end Remote

end Federation
