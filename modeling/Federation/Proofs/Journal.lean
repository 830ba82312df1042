import Federation.Proofs.Moment

namespace Federation

structure Reply where
  call : Call
  outcome : call.Outcome

def Event.reply {σ : Type} (x : Event σ) : Reply := ⟨x.call, x.outcome⟩

structure Journal where
  replies : List Reply
  changes : List Change

namespace Journal

def empty : Journal := ⟨[], []⟩

def answered (c : Call) (r : c.Outcome) : Journal := ⟨[⟨c, r⟩], []⟩

def noted (change : Change) : Journal := ⟨[], [change]⟩

instance : Append Journal := ⟨fun i j => ⟨i.replies ++ j.replies, i.changes ++ j.changes⟩⟩

variable (i j k : Journal)

@[simp] theorem replies_append : (i ++ j).replies = i.replies ++ j.replies := rfl

@[simp] theorem replies_append_noted (change : Change) : (i ++ noted change).replies = i.replies :=
  List.append_nil _

theorem append_assoc : i ++ j ++ k = i ++ (j ++ k) :=
  congrArg₂ mk (List.append_assoc _ _ _) (List.append_assoc _ _ _)

@[simp] theorem append_empty : i ++ empty = i :=
  congrArg₂ mk (List.append_nil _) (List.append_nil _)

@[simp] theorem empty_append : empty ++ i = i := rfl

end Journal

namespace Routine

variable {σ α β : Type} {rule : List Reply → Call → Prop}

/-- What the routine does when it runs alone. -/
def journal (d : Behaviour σ) (m : Routine α) (s : σ) : Journal :=
  ⟨(m.events d s).map Event.reply, (m.run d s).2.1⟩

/-- Whatever is answered, each call follows the rule, given the answers before it, and the result
and the journal at the end are as the condition says. -/
def Heeds (rule : List Reply → Call → Prop) (post : α → Journal → Prop) : Journal → Routine α → Prop
  | j, .done a => post a j
  | j, .call c next =>
    rule j.replies c ∧ ∀ r, Heeds rule post (j ++ Journal.answered c r) (next r)
  | j, .acquire _ next | j, .release _ next => Heeds rule post j next
  | j, .record change next => Heeds rule post (j ++ Journal.noted change) next

theorem Heeds.mono {post post' : α → Journal → Prop} {m : Routine α} {j : Journal}
    (h : Heeds rule post j m) (himp : ∀ a j, post a j → post' a j) : Heeds rule post' j m := by
  induction m generalizing j with
  | done a => exact himp a j h
  | call c next ih => exact ⟨h.1, fun r => ih r (h.2 r)⟩
  | acquire _ next ih | release _ next ih | record _ next ih => exact ih h

theorem Heeds.bind {post : β → Journal → Prop} {m : Routine α} {f : α → Routine β} {j : Journal}
    (h : Heeds rule (fun a j => Heeds rule post j (f a)) j m) : Heeds rule post j (m.bind f) := by
  induction m generalizing j with
  | done a => exact h
  | call c next ih => exact ⟨h.1, fun r => ih r (h.2 r)⟩
  | acquire _ next ih | release _ next ih | record _ next ih => exact ih h

section Run

variable {post : α → Journal → Prop} {m : Routine α} {j : Journal} (d : Behaviour σ) (s : σ)

theorem journal_call {c : Call} (next : c.Outcome → Routine α) :
    (Routine.call c next).journal d s =
      .answered c (d c s).1 ++ (next (d c s).1).journal d (d c s).2 := rfl

theorem journal_record (change : Change) (next : Routine α) :
    (Routine.record change next).journal d s = .noted change ++ next.journal d s := rfl

theorem Heeds.run (h : Heeds rule post j m) : post (m.run d s).1 (j ++ m.journal d s) := by
  induction m generalizing j s with
  | done a =>
    rw [show (Routine.done a).journal d s = .empty from rfl, Journal.append_empty]
    exact h
  -- What was done before the rest now ends with this call.
  | call c next ih =>
    rw [journal_call, ← Journal.append_assoc]
    exact ih _ _ (h.2 _)
  | acquire _ next ih | release _ next ih => exact ih s h
  | record change next ih =>
    rw [journal_record, ← Journal.append_assoc]
    exact ih s h

/-- Every call of a run follows the rule, given the answers before it. -/
theorem Heeds.follows (h : Heeds rule post j m) {before after : List Reply} {x : Reply}
    (hx : (m.journal d s).replies = before ++ x :: after) : rule (j.replies ++ before) x.call := by
  induction m generalizing j s before with
  | done a => simp [journal, events] at hx
  | call c next ih =>
    rw [journal_call, Journal.replies_append] at hx
    cases before with
    | nil =>
      obtain ⟨rfl, -⟩ := List.cons.inj hx
      rw [List.append_nil]
      exact h.1
    | cons y before =>
      obtain ⟨rfl, hrest⟩ := List.cons.inj hx
      simpa [Journal.answered] using ih _ _ (h.2 _) hrest
  | acquire _ next ih | release _ next ih => exact ih s h hx
  | record change next ih =>
    have hnext := ih s h hx
    simpa [Journal.noted] using hnext

end Run

end Routine

namespace Attempt

variable {α β : Type} {rule : List Reply → Call → Prop}
  {post : Except ReconcileError α → Journal → Prop} {j : Journal}

abbrev Heeds (rule : List Reply → Call → Prop) (post : Except ReconcileError α → Journal → Prop)
    (j : Journal) (m : Attempt α) : Prop :=
  Routine.Heeds rule post j m.run

theorem Heeds.pure {a : α} (h : post (.ok a) j) : Heeds rule post j (pure a) := h

theorem Heeds.throw {e : ReconcileError} (h : post (.error e) j) : Heeds rule post j (throw e) := h

theorem Heeds.andThen {mid : Except ReconcileError β → Journal → Prop} {m : Attempt β}
    {f : β → Attempt α} (hm : Heeds rule mid j m)
    (hok : ∀ b j, mid (.ok b) j → Heeds rule post j (f b))
    (herr : ∀ e j, mid (.error e) j → post (.error e) j) : Heeds rule post j (m >>= f) := by
  refine Routine.Heeds.bind (Routine.Heeds.mono hm fun r j h => ?_)
  cases r with
  | ok b => exact hok b j h
  | error e => exact herr e j h

theorem Heeds.record {change : Change} {post : Except ReconcileError Unit → Journal → Prop}
    (h : post (.ok ()) (j ++ .noted change)) : Heeds rule post j (record change) := h

theorem Heeds.holding {key : String} {body : Attempt α} (h : Heeds rule post j body) :
    Heeds rule post j (holding key body) :=
  Routine.Heeds.bind (Routine.Heeds.mono h fun _ _ hpost => hpost)

theorem Heeds.afterCall {c : Call} {f : c.Answer → Attempt α} (hc : rule j.replies c)
    (hok : ∀ a, Heeds rule post (j ++ .answered c (.ok a)) (f a))
    (herr : ∀ e, post (.error (.directory e)) (j ++ .answered c (.error e))) :
    Heeds rule post j (Attempt.perform c >>= f) := by
  refine ⟨hc, fun r => ?_⟩
  cases r with
  | ok a => exact hok a
  | error e => exact herr e

theorem Heeds.afterLookup {c : Call} {f : Option c.Answer → Attempt α} (hc : rule j.replies c)
    (hsome : ∀ a, Heeds rule post (j ++ .answered c (.ok a)) (f (some a)))
    (hnone : ∀ e, e.isNotFound = true → Heeds rule post (j ++ .answered c (.error e)) (f none))
    (herr : ∀ e, e.isNotFound = false →
      post (.error (.directory e)) (j ++ .answered c (.error e))) :
    Heeds rule post j (Attempt.lookup c >>= f) := by
  refine ⟨hc, fun r => ?_⟩
  cases r with
  | ok a => exact hsome a
  | error e =>
    cases he : e.isNotFound with
    | true =>
      simp only [Routine.bind, found, he, if_true]
      exact hnone e he
    | false =>
      simp only [Routine.bind, found, he, Bool.false_eq_true, if_false]
      exact herr e he

theorem Heeds.afterRecord {change : Change} {m : Attempt α}
    (h : Heeds rule post (j ++ .noted change) m) :
    Heeds rule post j (Attempt.record change >>= fun _ => m) := h

theorem Heeds.afterDeleting {dryRun : Bool} {c : Call} {f : Unit → Attempt α}
    (hskip : dryRun = true → Heeds rule post j (f ()))
    (hc : dryRun = false → rule j.replies c)
    (hok : dryRun = false → ∀ a, Heeds rule post (j ++ .answered c (.ok a)) (f ()))
    (herr : dryRun = false → ∀ e,
      post (.error (.directory e)) (j ++ .answered c (.error e))) :
    Heeds rule post j (deleting dryRun c >>= f) := by
  cases dryRun with
  | true => exact hskip rfl
  | false =>
    unfold deleting
    rw [if_neg Bool.false_ne_true]
    refine ⟨hc rfl, fun r => ?_⟩
    cases r with
    | ok a => exact hok rfl a
    | error e => exact herr rfl e

end Attempt

end Federation
