import Federation.Reconcile.Provision
import Federation.Reconcile.Report
import Federation.Reconcile.Teardown

namespace Federation

structure Order where
  identities : List WorkloadIdentity
  action : Action
  dryRun : Bool
  /-- The number of identities that are worked on at once; zero counts as one. -/
  concurrency : Nat
  deriving DecidableEq, Repr

structure IdentityOutcome where
  displayName : String
  changes : List Change
  result : Except ReconcileError Unit

def IdentityOutcome.failure? (o : IdentityOutcome) : Option IdentityFailure :=
  match o.result with
  | .ok () => none
  | .error e => some ⟨o.displayName, e.message⟩

structure Summary where
  cancelled : Bool
  changes : List Change
  errors : List IdentityFailure
  deriving DecidableEq, Repr

namespace Summary

def ofOutcomes (cancelled : Bool) (outcomes : List IdentityOutcome) : Summary :=
  ⟨cancelled, outcomes.flatMap (·.changes), outcomes.filterMap (·.failure?)⟩

def isClean (s : Summary) : Bool := s.errors.isEmpty && !s.cancelled

def report (s : Summary) (order : Order) (runId : Uuid) (startedAt finishedAt : Instant) : Report :=
  ⟨runId, order.action, order.dryRun, s.cancelled, startedAt, some finishedAt, s.changes, s.errors⟩

end Summary

namespace Order

variable {σ : Type}

def attempt (o : Order) (identity : WorkloadIdentity) : Attempt Unit :=
  match o.action, o.dryRun with
  | .provision, false => provision identity
  | .provision, true => planProvision identity
  | .teardown, dryRun => teardown identity dryRun

def violation? (o : Order) : Option Violation := o.identities.findSome? (·.violation?)

def runEach (o : Order) (d : Behaviour σ) : List WorkloadIdentity → σ → List IdentityOutcome × σ
  | [], s => ([], s)
  | identity :: rest, s =>
    let (result, changes, s) := (o.attempt identity).run.run d s
    let (outcomes, s) := o.runEach d rest s
    (⟨identity.displayName, changes, result⟩ :: outcomes, s)

/-- Carries an order out. Nothing is done when an identity breaks a rule; failures of identities
are part of the summary, as is whether the token was cancelled by the end. -/
def run (o : Order) (d : Behaviour σ) (isCancelled : σ → Bool) (s : σ) :
    Except ReconcileError Summary × σ :=
  match o.violation? with
  | some why => (.error (.declaration why), s)
  | none =>
    let (outcomes, s) := o.runEach d o.identities s
    (.ok (.ofOutcomes (isCancelled s) outcomes), s)

end Order

end Federation
