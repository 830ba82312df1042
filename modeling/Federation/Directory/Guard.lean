import Federation.Directory.Rehearsal

namespace Federation

/-- How a request goes: it is answered, and the token may be cancelled by the time it is, or the
token is cancelled before there is an answer. -/
inductive Passage
  | answered (answer : Except TransportError Response) (cancels : Bool)
  | unanswered

structure Guarded (σ : Type) where
  outside : σ
  cancelled : Bool
  requests : List Request

def Guarded.send {σ : Type} (pass : Request → σ → Passage × σ) : Transport (Guarded σ) :=
  fun request g =>
    if g.cancelled then (.error .cancelled, g)
    else
      let requests := g.requests ++ [request]
      match pass request g.outside with
      | (.answered answer cancels, outside) => (answer, ⟨outside, cancels, requests⟩)
      | (.unanswered, outside) => (.error .cancelled, ⟨outside, true, requests⟩)

/-- The directory behind a transport under a token: once the token is cancelled no request is made,
and a request that has no answer by then is given up. -/
def Guarded.behaviour {σ : Type} (pass : Request → σ → Passage × σ) : Behaviour (Guarded σ) :=
  Gateway.behaviour (Guarded.send pass)

namespace ScriptedTransport

def pass (_ : Request) : List Cue → Passage × List Cue
  | [] => (.answered (.error exhausted) false, [])
  | ⟨true, .error .cancelled⟩ :: cues => (.unanswered, cues)
  | ⟨cancels, answer⟩ :: cues => (.answered answer cancels, cues)

def guarded (t : ScriptedTransport) : Guarded (List Cue) := ⟨t.cues, t.cancelled, t.requests⟩

theorem send_guarded (request : Request) (t : ScriptedTransport) :
    Guarded.send pass request t.guarded = ((send request t).1, (send request t).2.guarded) := by
  obtain ⟨cues, cancelled, requests⟩ := t
  cases cancelled with
  | true => rfl
  | false =>
    rcases cues with _ | ⟨⟨cancels, answer⟩, cues⟩
    · rfl
    · rcases cancels with _ | _ <;> rcases answer with (_ | _) | _ <;> rfl

theorem behaviour_guarded (c : Call) (t : ScriptedTransport) :
    Guarded.behaviour pass c t.guarded = ((behaviour c t).1, (behaviour c t).2.guarded) := by
  unfold Guarded.behaviour behaviour Gateway.behaviour
  rw [send_guarded]
  rcases send c.request t with ⟨answer | why, u⟩ <;> rfl

end ScriptedTransport

end Federation
