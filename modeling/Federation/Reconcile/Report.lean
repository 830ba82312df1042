import Federation.Instant
import Federation.Reconcile.Change
import Federation.Uuid

namespace Federation

inductive Action
  | provision
  | teardown
  deriving DecidableEq, Repr

namespace Action

def name : Action → String
  | .provision => "provision"
  | .teardown => "teardown"

def ofJson : Json → Except Mismatch Action :=
  Json.readName ([Action.provision, .teardown].map fun a => (a.name, a))

def toJson (a : Action) : Json := .string a.name

end Action

structure IdentityFailure where
  displayName : String
  error : String
  deriving DecidableEq, Repr

/-- The account of a run over all identities. -/
structure Report where
  runId : Uuid
  action : Action
  dryRun : Bool
  cancelled : Bool
  startedAt : Instant
  finishedAt : Option Instant
  changes : List Change
  errors : List IdentityFailure
  deriving DecidableEq, Repr

open Json (Slot)

namespace IdentityFailure

def displayNameSlot : Slot String := .required "display_name" Json.readString
def errorSlot : Slot String := .required "error" Json.readString

def ofJson : Json → Except Mismatch IdentityFailure :=
  Json.readRecord "struct IdentityFailure" [displayNameSlot.check, errorSlot.check] fun src => do
    let displayName ← src.get 0 displayNameSlot
    let error ← src.get 1 errorSlot
    .ok ⟨displayName, error⟩

def toJson (f : IdentityFailure) : Json :=
  .object [("display_name", .string f.displayName), ("error", .string f.error)]

end IdentityFailure

def Uuid.ofJson : Json → Except Mismatch Uuid
  | .string s =>
    (Uuid.ofText s).mapError fun why => .unreadable ("UUID parsing failed: " ++ why.message)
  | v => .error (.invalidType v.found "a formatted UUID string")

def Uuid.toJson (u : Uuid) : Json := .string u.text

def Instant.ofJson : Json → Except Mismatch Instant
  | .string s => (Instant.ofText s).mapError fun why => .unreadable why.message
  | v => .error (.invalidType v.found "an RFC 3339 formatted date and time string")

def Instant.toJson (t : Instant) : Json := .string t.text

namespace Report

def runIdSlot : Slot Uuid := .required "run_id" Uuid.ofJson
def actionSlot : Slot Action := .required "action" Action.ofJson
def dryRunSlot : Slot Bool := .required "dry_run" Json.readBool
def cancelledSlot : Slot Bool := .defaulted "cancelled" Json.readBool false
def startedAtSlot : Slot Instant := .required "started_at" Instant.ofJson
def finishedAtSlot : Slot (Option Instant) := .optional "finished_at" Instant.ofJson
def changesSlot : Slot (List Change) := .required "changes" (Json.readList Change.ofJson)
def errorsSlot : Slot (List IdentityFailure) :=
  .required "errors" (Json.readList IdentityFailure.ofJson)

def ofJson : Json → Except Mismatch Report :=
  Json.readRecord "struct ReconcileReport"
    [runIdSlot.check, actionSlot.check, dryRunSlot.check, cancelledSlot.check,
      startedAtSlot.check, finishedAtSlot.check, changesSlot.check, errorsSlot.check]
    fun src => do
      let runId ← src.get 0 runIdSlot
      let action ← src.get 1 actionSlot
      let dryRun ← src.get 2 dryRunSlot
      let cancelled ← src.get 3 cancelledSlot
      let startedAt ← src.get 4 startedAtSlot
      let finishedAt ← src.get 5 finishedAtSlot
      let changes ← src.get 6 changesSlot
      let errors ← src.get 7 errorsSlot
      .ok ⟨runId, action, dryRun, cancelled, startedAt, finishedAt, changes, errors⟩

def toJson (r : Report) : Json :=
  .object [("run_id", r.runId.toJson), ("action", r.action.toJson), ("dry_run", .bool r.dryRun),
    ("cancelled", .bool r.cancelled), ("started_at", r.startedAt.toJson),
    ("finished_at", Json.ofOption Instant.toJson r.finishedAt),
    ("changes", Json.ofList Change.toJson r.changes),
    ("errors", Json.ofList IdentityFailure.toJson r.errors)]

def isClean (r : Report) : Bool := r.errors.isEmpty && !r.cancelled

end Report

end Federation
