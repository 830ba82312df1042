import Federation.Directory.Error

namespace Federation

/-- What the body of an answer says about success, whatever the status is. -/
inductive Envelope
  | clean
  | serviceError (e : ServiceError)
  | malformed (why : BodyFault)
  deriving DecidableEq

namespace Envelope

def errorKey : String := "error"

def classify (fields : List (String × Json)) : Envelope :=
  match Json.get? errorKey fields with
  | none | some .null => .clean
  | some (.object fs) =>
    match ServiceError.ofJson (.object fs) with
    | .ok e => .serviceError e
    | .error why => .malformed (.envelopeShape why)
  | some v => .malformed (.envelopeKind v)

def verdict : Envelope → Except DirectoryError (Option ServiceError)
  | .clean => .ok none
  | .serviceError e => .ok (some e)
  | .malformed why => .error (.body why)

end Envelope

end Federation
