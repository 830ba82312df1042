import Federation.Directory.Error
import Federation.Identity

namespace Federation

/-- Why an identity could not be brought to its declared state. -/
inductive ReconcileError
  | directory (why : DirectoryError)
  | declaration (why : Violation)
  | appIdMismatch (displayName expected found : String)
  deriving DecidableEq

namespace ReconcileError

def message : ReconcileError → String
  | .directory why => "directory error: " ++ why.message
  | .declaration why => "invalid identity: " ++ why.message
  | .appIdMismatch displayName expected found =>
    "service principal '" ++ displayName ++ "' belongs to appId " ++ found ++ ", expected " ++ expected

def causes : ReconcileError → List String
  | .directory why => why.message :: why.causes
  | .declaration why => [why.message]
  | .appIdMismatch .. => []

def isCancelled : ReconcileError → Bool
  | .directory why => why.isCancelled
  | _ => false

end ReconcileError

end Federation
