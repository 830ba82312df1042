import Federation.Directory.Rehearsal
import Federation.Proofs.Scope

namespace Federation

open Store

namespace Routine

variable {names : Naming} {α β : Type}

/-- On its way alone from the first store the routine is to make a call at the second one. -/
def Pending (names : Naming) : Routine α → Store → Store → Prop
  | .done _, _, _ => False
  | .call c next, s, t =>
    t = s ∨ (next (behaviour names c s).1).Pending names (behaviour names c s).2 t
  | .acquire _ next, s, t | .release _ next, s, t | .record _ next, s, t => next.Pending names s t

theorem pending_bind {m : Routine α} {f : α → Routine β} {s t : Store} :
    (m.bind f).Pending names s t ↔
      m.Pending names s t ∨
        (f (m.run (behaviour names) s).1).Pending names (m.run (behaviour names) s).2.2 t := by
  induction m generalizing s with
  | done a => exact (or_iff_right id).symm
  | call c next ih => exact (or_congr_right (ih _)).trans or_assoc.symm
  | acquire _ next ih | release _ next ih | record _ next ih => exact ih

theorem Pending.traced {m : Routine α} {s t : Store} (h : m.Pending names s t)
    (hs : s.Traced names) : t.Traced names := by
  induction m generalizing s with
  | done a => cases h
  | call c next ih =>
    obtain rfl | h := h
    · exact hs
    · exact ih _ h (hs.call c)
  | acquire _ next ih | release _ next ih | record _ next ih => exact ih h hs

end Routine

namespace RehearsedStore

variable {names : Naming} {α : Type}

/-- Nothing goes wrong but that the token is cancelled. -/
def OnlyCancels (r : RehearsedStore) : Prop := ∀ x ∈ r.disturbances, x.error = none

variable {r : RehearsedStore}

theorem perform_dead (h : r.cancelled = true) (c : Call) :
    r.perform names c = (.error (.transport .cancelled), r) := if_pos h

theorem perform_live (h : r.cancelled = false) (c : Call) :
    r.perform names c = ((Store.behaviour names c r.store).1,
      { r with store := (Store.behaviour names c r.store).2 }) := by
  unfold perform
  rw [if_neg (by simp [h])]

theorem behaviour_dead (h : r.cancelled = true) (c : Call) :
    (behaviour names c r).2.cancelled = true ∧ (behaviour names c r).2.store = r.store := by
  unfold behaviour
  cases r.disturbance? c with
  | none => simp [perform_dead, h]
  | some x =>
    obtain ⟨kind, nth, after, error⟩ := x
    cases after <;> cases error <;> simp [perform_dead, h]

theorem behaviour_live (hlive : r.cancelled = false) (honly : r.OnlyCancels) (c : Call) :
    (behaviour names c r).2.OnlyCancels ∧
      (((behaviour names c r).1 = (Store.behaviour names c r.store).1 ∧
          (behaviour names c r).2.store = (Store.behaviour names c r.store).2) ∨
        ((behaviour names c r).2.cancelled = true ∧
          (behaviour names c r).2.store = r.store)) := by
  have hperformed := @perform_live names { r with calls := r.calls ++ [c] } hlive c
  unfold behaviour
  cases hd : r.disturbance? c with
  | none =>
    dsimp only
    rw [hperformed]
    exact ⟨honly, .inl ⟨rfl, rfl⟩⟩
  | some x =>
    obtain ⟨kind, nth, after, error⟩ := x
    obtain rfl : error = none := honly _ (List.mem_of_find?_eq_some hd)
    cases after with
    | false => exact ⟨honly, .inr ⟨rfl, rfl⟩⟩
    | true =>
      dsimp only
      rw [hperformed]
      exact ⟨honly, .inl ⟨rfl, rfl⟩⟩

theorem run_dead (m : Routine α) (h : r.cancelled = true) :
    (m.run (behaviour names) r).2.2.store = r.store := by
  induction m generalizing r with
  | done a => rfl
  | call c next ih =>
    exact (ih _ (behaviour_dead h c).1).trans (behaviour_dead h c).2
  | acquire _ next ih | release _ next ih | record _ next ih => exact ih h

/-- An attempt that ended because its token was cancelled ended where it was to make a call. -/
theorem pending_of_cut {a : String} {Q : α → Prop} {m : Routine (Except ReconcileError α)}
    (hm : m.KeepsTo names a (Uncut Q)) (hs : r.store.Traced names) (honly : r.OnlyCancels)
    {e : ReconcileError} (he : e.isCancelled = true)
    (h : (m.run (behaviour names) r).1 = .error e) :
    m.Pending names r.store (m.run (behaviour names) r).2.2.store := by
  induction m generalizing r with
  | done result =>
    obtain rfl : result = .error e := h
    -- What failed because its token was cancelled cannot have come to its end.
    have hlive : e.isCancelled = false := hm
    rw [he] at hlive
    cases hlive
  | call c next ih =>
    cases hdead : r.cancelled with
    | true => exact .inl (run_dead _ hdead)
    | false =>
      obtain ⟨honly', ⟨houtcome, hstore⟩ | ⟨hdead', hstore⟩⟩ :=
        @behaviour_live names r hdead honly c
      · right
        rw [← houtcome, ← hstore]
        refine ih _ ?_ ?_ honly' h
        · rw [houtcome]
          exact hm.2 _ hs
        · rw [hstore]
          exact hs.call c
      · exact .inl ((run_dead _ hdead').trans hstore)
  | acquire _ next ih | release _ next ih | record _ next ih => exact ih hm hs honly h

end RehearsedStore

namespace Attempt

variable {names : Naming} {α β : Type} {s t u : Store}

theorem pending_andThen_ok {m : Attempt β} {b : β} {changes : List Change} (f : β → Attempt α)
    (h : m.run.run (behaviour names) s = (.ok b, changes, u)) :
    (m >>= f).run.Pending names s t ↔
      m.run.Pending names s t ∨ (f b).run.Pending names u t := by
  have hbind := @Routine.pending_bind names _ _ m.run (fun r => ExceptT.bindCont f r) s t
  rw [h] at hbind
  exact hbind

theorem pending_andThen_error {m : Attempt β} {e : ReconcileError} {changes : List Change}
    (f : β → Attempt α) (h : m.run.run (behaviour names) s = (.error e, changes, u)) :
    (m >>= f).run.Pending names s t ↔ m.run.Pending names s t := by
  have hbind := @Routine.pending_bind names _ _ m.run (fun r => ExceptT.bindCont f r) s t
  rw [h] at hbind
  exact hbind.trans (or_iff_left id)

theorem pending_lookup {c : Call} : (lookup c).run.Pending names s t ↔ t = s := or_iff_left id

theorem pending_perform {c : Call} : (perform c).run.Pending names s t ↔ t = s := or_iff_left id

theorem not_pending_record {change : Change} : ¬ (record change).run.Pending names s t := id

theorem pending_map {m : Attempt β} {f : β → α} :
    (do return f (← m) : Attempt α).run.Pending names s t ↔ m.run.Pending names s t := by
  cases h : m.run.run (behaviour names) s with
  | mk r more =>
    cases r with
    | ok b => exact (pending_andThen_ok _ h).trans (or_iff_left id)
    | error e => exact pending_andThen_error _ h

theorem pending_record_andThen {change : Change} (f : Unit → Attempt α) :
    (record change >>= f).run.Pending names s t ↔ (f ()).run.Pending names s t :=
  (pending_andThen_ok f (run_record _ s _)).trans (or_iff_right not_pending_record)

theorem pending_holding {key : String} {body : Attempt α} :
    (holding key body).run.Pending names s t ↔ body.run.Pending names s t :=
  Routine.pending_bind.trans (or_iff_left id)

def ends (names : Naming) (m : Attempt α) (s : Store) : Except ReconcileError α × Store :=
  ((m.run.run (behaviour names) s).1, (m.run.run (behaviour names) s).2.2)

theorem ends_andThen {m : Attempt β} {b : β} {changes : List Change} (f : β → Attempt α)
    (h : m.run.run (behaviour names) s = (.ok b, changes, u)) :
    (m >>= f).ends names s = (f b).ends names u := by
  unfold ends
  rw [run_bind_ok _ _ h]

theorem ends_record_andThen {change : Change} (f : Unit → Attempt α) :
    (record change >>= f).ends names s = (f ()).ends names s :=
  ends_andThen f (run_record _ s _)

/-- From the first store the attempt, with its token cancelled at some moment, ends because of that
and leaves the second store. -/
def CutOff (names : Naming) (m : Attempt α) (s t : Store) : Prop :=
  ∃ r : RehearsedStore, r.store = s ∧ r.OnlyCancels ∧
    let (result, _, r') := m.run.run (RehearsedStore.behaviour names) r
    (∃ e, result = .error e ∧ e.isCancelled = true) ∧ r'.store = t

theorem CutOff.pending {m : Attempt α} {a : String} {Q : α → Prop} (hm : KeepsTo names a Q m)
    (hs : s.Traced names) (h : CutOff names m s t) : m.run.Pending names s t := by
  obtain ⟨r, rfl, honly, ⟨e, hresult, he⟩, rfl⟩ := h
  exact RehearsedStore.pending_of_cut hm hs honly he hresult

end Attempt

end Federation
