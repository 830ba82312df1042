import Federation.Directory.Gateway
import Federation.Directory.Store

namespace Federation

/-- Something that goes wrong at the `nth` call of a kind, counted from zero: the call fails with an
error, or without one the token is cancelled; before the call is performed or after it. -/
structure Disturbance where
  kind : Call.Kind
  nth : Nat
  after : Bool
  error : Option DirectoryError

structure RehearsedStore where
  store : Store
  cancelled : Bool
  calls : List Call
  disturbances : List Disturbance

namespace RehearsedStore

def empty : RehearsedStore := ⟨.empty, false, [], []⟩

def prepare (r : RehearsedStore) (disturbances : List Disturbance) : RehearsedStore :=
  { r with calls := [], disturbances }

def perform (names : Naming) (c : Call) (r : RehearsedStore) : c.Outcome × RehearsedStore :=
  if r.cancelled then (.error (.transport .cancelled), r)
  else
    let (outcome, store) := Store.behaviour names c r.store
    (outcome, { r with store })

def disturbance? (r : RehearsedStore) (c : Call) : Option Disturbance :=
  let n := r.calls.countP (·.kind = c.kind)
  r.disturbances.find? fun x => x.kind = c.kind ∧ x.nth = n

def behaviour (names : Naming) : Behaviour RehearsedStore := fun c r =>
  let disturbance := r.disturbance? c
  let r := { r with calls := r.calls ++ [c] }
  match disturbance with
  | none => r.perform names c
  | some ⟨_, _, false, some e⟩ => (.error e, r)
  | some ⟨_, _, true, some e⟩ => (.error e, (r.perform names c).2)
  | some ⟨_, _, false, none⟩ => { r with cancelled := true }.perform names c
  | some ⟨_, _, true, none⟩ =>
    let (outcome, r) := r.perform names c
    (outcome, { r with cancelled := true })

end RehearsedStore

/-- One entry of a script: the token may be cancelled first, and then a request is answered, or
fails, or is left hanging until it is cancelled. -/
structure Cue where
  cancels : Bool
  answer : Except TransportError Response

structure ScriptedTransport where
  cues : List Cue
  cancelled : Bool
  requests : List Request

namespace ScriptedTransport

def empty : ScriptedTransport := ⟨[], false, []⟩

def prepare (t : ScriptedTransport) (cues : List Cue) : ScriptedTransport :=
  { t with cues, requests := [] }

def exhausted : TransportError := .token "script exhausted"

def send : Transport ScriptedTransport := fun request t =>
  if t.cancelled then (.error .cancelled, t)
  else
    let t := { t with requests := t.requests ++ [request] }
    match t.cues with
    | [] => (.error exhausted, t)
    | cue :: cues => (cue.answer, { t with cues, cancelled := cue.cancels })

def behaviour : Behaviour ScriptedTransport := Gateway.behaviour send

end ScriptedTransport

end Federation
