import Mathlib.Logic.Relation
import Federation.Proofs.Lock
import Federation.Proofs.Store
import Federation.Reconcile.Routine

namespace Federation

/-- A call that was made, with what came of it and the store it left. -/
structure Deed where
  call : Call
  outcome : call.Outcome
  after : Store

namespace Deed

def done (names : Naming) (c : Call) (s : Store) : Deed :=
  ⟨c, (Store.behaviour names c s).1, (Store.behaviour names c s).2⟩

def refused (c : Call) (s : Store) : Deed := ⟨c, .error (.transport .cancelled), s⟩

def application? : Deed → Option Application
  | ⟨.getApplication _, .ok app, _⟩ | ⟨.createApplication _, .ok app, _⟩ => some app
  | _ => none

/-- What holds of every call that is made, and goes on to hold when the token is cancelled. -/
structure Persists (names : Naming) (P : Bool → Deed → Prop) : Prop where
  done : ∀ c s, s.Sound names → P false (.done names c s)
  refused : ∀ c s, P true (.refused c s)
  cancel : ∀ cancelled d, P cancelled d → P true d

end Deed

def Routine.result? {α : Type} : Routine α → Option α
  | .done a => some a
  | _ => none

/-- One routine under way: what is left of it, unless it was given up, whether its token is
cancelled, the calls it made and the changes it put on record. -/
structure Strand (α : Type) where
  left : Option (Routine α)
  cancelled : Bool
  deeds : List Deed
  changes : List Change

namespace Strand

variable {α : Type}

def start (routine : Routine α) : Strand α := ⟨some routine, false, [], []⟩

def result? (strand : Strand α) : Option α := strand.left.bind (·.result?)

theorem result?_eq_some {strand : Strand α} {a : α} :
    strand.result? = some a ↔ strand.left = some (.done a) := by
  refine Option.bind_eq_some_iff.trans ⟨?_, fun h => ⟨_, h, rfl⟩⟩
  rintro ⟨routine, hl, hr⟩
  cases routine with
  | done b =>
    cases hr
    exact hl
  | call | acquire | release | record => cases hr

end Strand

/-- Routines that share a store and creation locks; these go by the places of the routines. -/
structure Weave (α : Type) where
  strands : List (Strand α)
  locks : LockTable Nat
  store : Store

namespace Weave

variable {α : Type}

def start (routines : List (Routine α)) (locks : LockTable Nat) (s : Store) : Weave α :=
  ⟨routines.map .start, locks, s⟩

def put (w : Weave α) (p : Nat) (strand : Strand α) : Weave α :=
  { w with strands := w.strands.set p strand }

theorem set_self {w : Weave α} {p : Nat} {strand : Strand α} (hp : w.strands[p]? = some strand) :
    w.strands.set p strand = w.strands := by
  obtain ⟨hlt, rfl⟩ := List.getElem?_eq_some_iff.mp hp
  exact List.set_getElem_self hlt

theorem getElem?_set {w : Weave α} {p : Nat} {strand : Strand α} (hp : w.strands[p]? = some strand)
    (strand' : Strand α) : (w.strands.set p strand')[p]? = some strand' :=
  List.getElem?_set_self (List.getElem?_eq_some_iff.mp hp).1

def results (w : Weave α) : List α := w.strands.filterMap Strand.result?

inductive Step (names : Naming) : Weave α → Weave α → Prop
  | ask {w : Weave α} {p : Nat} {strand : Strand α} {key : String} {next : Routine α}
      (hp : w.strands[p]? = some strand) (hl : strand.left = some (.acquire key next))
      (hk : w.locks.knows p = false) :
      Step names w { w with locks := w.locks.ask p key }
  | take {w : Weave α} {p : Nat} (hc : w.locks.CanTake p) :
      Step names w { w with locks := w.locks.take p }
  | enter {w : Weave α} {p : Nat} {strand : Strand α} {key : String} {next : Routine α}
      (hp : w.strands[p]? = some strand) (hl : strand.left = some (.acquire key next))
      (hh : w.locks.holds p = true) :
      Step names w (w.put p { strand with left := some next })
  | leave {w : Weave α} {p : Nat} {strand : Strand α} {key : String} {next : Routine α}
      (hp : w.strands[p]? = some strand) (hl : strand.left = some (.release key next)) :
      Step names w { w.put p { strand with left := some next } with locks := w.locks.drop p }
  | note {w : Weave α} {p : Nat} {strand : Strand α} {change : Change} {next : Routine α}
      (hp : w.strands[p]? = some strand) (hl : strand.left = some (.record change next)) :
      Step names w
        (w.put p { strand with left := some next, changes := strand.changes ++ [change] })
  | call {w : Weave α} {p : Nat} {strand : Strand α} {c : Call} {next : c.Outcome → Routine α}
      (hp : w.strands[p]? = some strand) (hl : strand.left = some (.call c next))
      (hc : strand.cancelled = false) :
      Step names w { w.put p { strand with
        left := some (next (Store.behaviour names c w.store).1)
        deeds := strand.deeds ++ [.done names c w.store] } with
          store := (Store.behaviour names c w.store).2 }
  | refuse {w : Weave α} {p : Nat} {strand : Strand α} {c : Call} {next : c.Outcome → Routine α}
      (hp : w.strands[p]? = some strand) (hl : strand.left = some (.call c next))
      (hc : strand.cancelled = true) :
      Step names w (w.put p { strand with
        left := some (next (.error (.transport .cancelled)))
        deeds := strand.deeds ++ [.refused c w.store] })

/-- A routine goes on, or its token is cancelled, or it is given up, which frees its lock. -/
inductive Move (names : Naming) : Weave α → Weave α → Prop
  | step {w w' : Weave α} (h : Step names w w') : Move names w w'
  | cancel {w : Weave α} {p : Nat} {strand : Strand α} (hp : w.strands[p]? = some strand) :
      Move names w (w.put p { strand with cancelled := true })
  | quit {w : Weave α} {p : Nat} {strand : Strand α} (hp : w.strands[p]? = some strand) :
      Move names w { w.put p { strand with left := none } with locks := w.locks.drop p }

theorem moves_of_steps {names : Naming} {w w' : Weave α}
    (h : Relation.ReflTransGen (Step names) w w') : Relation.ReflTransGen (Move names) w w' :=
  h.lift id fun _ _ => .step

theorem length_of_steps {names : Naming} {w w' : Weave α}
    (h : Relation.ReflTransGen (Step names) w w') : w'.strands.length = w.strands.length := by
  induction h with
  | refl => rfl
  | tail _ hstep ih =>
    rw [← ih]
    cases hstep with
    | ask | take => rfl
    | enter | leave | note | call | refuse => exact List.length_set

def go (names : Naming) (p : Nat) (w : Weave α) : Option (Weave α) :=
  match w.strands[p]? with
  | none => none
  | some strand =>
    match strand.left with
    | none | some (.done _) => none
    | some (.acquire key next) =>
      if w.locks.holds p then some (w.put p { strand with left := some next })
      else if !w.locks.knows p then some { w with locks := w.locks.ask p key }
      else if w.locks.claims.any fun c => c.task = p && !w.locks.held c.slot then
        some { w with locks := w.locks.take p }
      else none
    | some (.release _ next) =>
      some { w.put p { strand with left := some next } with locks := w.locks.drop p }
    | some (.record change next) =>
      some (w.put p { strand with left := some next, changes := strand.changes ++ [change] })
    | some (.call c next) =>
      if strand.cancelled then
        some (w.put p { strand with
          left := some (next (.error (.transport .cancelled)))
          deeds := strand.deeds ++ [.refused c w.store] })
      else
        some { w.put p { strand with
          left := some (next (Store.behaviour names c w.store).1)
          deeds := strand.deeds ++ [.done names c w.store] } with
            store := (Store.behaviour names c w.store).2 }

def follow (names : Naming) : List Nat → Weave α → Option (Weave α)
  | [], w => some w
  | p :: rest, w => (w.go names p).bind (follow names rest)

theorem step_of_go {names : Naming} {p : Nat} {w w' : Weave α} (h : w.go names p = some w') :
    Step names w w' := by
  unfold go at h
  cases hp : w.strands[p]? with
  | none =>
    rw [hp] at h
    cases h
  | some strand =>
    rw [hp] at h
    dsimp only at h
    split at h
    · cases h
    · cases h
    · rename_i key next hl
      split at h
      · rename_i hh
        cases h
        exact .enter hp hl hh
      · split at h
        · rename_i hk
          cases h
          exact .ask hp hl (by simpa using hk)
        · split at h
          · rename_i hc
            cases h
            exact .take (by simpa [LockTable.CanTake] using hc)
          · cases h
    · rename_i next hl
      cases h
      exact .leave hp hl
    · rename_i change next hl
      cases h
      exact .note hp hl
    · rename_i c next hl
      split at h
      · rename_i hc
        cases h
        exact .refuse hp hl hc
      · rename_i hc
        cases h
        exact .call hp hl (by simpa using hc)

theorem steps_of_follow {names : Naming} {schedule : List Nat} {w w' : Weave α}
    (h : w.follow names schedule = some w') : Relation.ReflTransGen (Step names) w w' := by
  induction schedule generalizing w with
  | nil =>
    cases h
    exact .refl
  | cons p rest ih =>
    obtain ⟨w₁, hgo, hrest⟩ := Option.bind_eq_some_iff.mp h
    exact .head (step_of_go hgo) (ih hrest)

def Each (P : Bool → Deed → Prop) (w : Weave α) : Prop :=
  ∀ strand ∈ w.strands, ∀ d ∈ strand.deeds, P strand.cancelled d

theorem each_start {P : Bool → Deed → Prop} (routines : List (Routine α)) (locks : LockTable Nat)
    (s : Store) : (start routines locks s).Each P := by
  intro strand hs d hd
  obtain ⟨routine, -, rfl⟩ := List.mem_map.mp hs
  cases hd

theorem Each.set {P : Bool → Deed → Prop} {w : Weave α} (h : w.Each P) {p : Nat}
    {strand : Strand α} (hstrand : ∀ d ∈ strand.deeds, P strand.cancelled d)
    (locks : LockTable Nat) (s : Store) : Each P ⟨w.strands.set p strand, locks, s⟩ := by
  intro other ho
  obtain ho | rfl := List.mem_or_eq_of_mem_set ho
  · exact h other ho
  · exact hstrand

theorem Each.append {P : Bool → Deed → Prop} {strand : Strand α} {b : Bool} {d : Deed}
    (h : ∀ d ∈ strand.deeds, P strand.cancelled d) (hb : strand.cancelled = b) (hd : P b d) :
    ∀ e ∈ strand.deeds ++ [d], P strand.cancelled e := by
  intro e he
  obtain he | he := List.mem_append.mp he
  · exact h e he
  · rw [List.mem_singleton.mp he, hb]
    exact hd

theorem Each.step {names : Naming} {P : Bool → Deed → Prop} (hP : Deed.Persists names P)
    {w w' : Weave α} (hs : w.store.Sound names) (h : w.Each P) (hstep : w.Step names w') :
    w'.Each P := by
  cases hstep with
  | ask | take => exact h
  | enter hp | leave hp | note hp =>
    have hstrand := h _ (List.mem_of_getElem? hp)
    refine h.set ?_ _ _
    exact hstrand
  | @call p strand c next hp _ hc =>
    have hstrand := append (h _ (List.mem_of_getElem? hp)) hc (hP.done c _ hs)
    refine h.set ?_ _ _
    exact hstrand
  | @refuse p strand c next hp _ hc =>
    have hstrand := append (h _ (List.mem_of_getElem? hp)) hc (hP.refused c w.store)
    refine h.set ?_ _ _
    exact hstrand

theorem sound_step {names : Naming} {w w' : Weave α} (hs : w.store.Sound names)
    (hstep : w.Step names w') : w'.store.Sound names := by
  cases hstep with
  | call => exact hs.call _
  | ask | take | enter | leave | note | refuse => exact hs

theorem Each.move {names : Naming} {P : Bool → Deed → Prop} (hP : Deed.Persists names P)
    {w w' : Weave α} (hs : w.store.Sound names) (h : w.Each P) (hmove : w.Move names w') :
    w'.Each P ∧ w'.store.Sound names := by
  cases hmove with
  | step hstep => exact ⟨h.step hP hs hstep, sound_step hs hstep⟩
  | cancel hp =>
    have hstrand := h _ (List.mem_of_getElem? hp)
    refine ⟨h.set ?_ _ _, hs⟩
    exact fun d hd => hP.cancel _ d (hstrand d hd)
  | quit hp =>
    have hstrand := h _ (List.mem_of_getElem? hp)
    refine ⟨h.set ?_ _ _, hs⟩
    exact hstrand

theorem Each.moves {names : Naming} {P : Bool → Deed → Prop} (hP : Deed.Persists names P)
    {w w' : Weave α} (hs : w.store.Sound names) (h : w.Each P)
    (hmoves : Relation.ReflTransGen (Move names) w w') : w'.Each P := by
  suffices w'.Each P ∧ w'.store.Sound names from this.1
  induction hmoves with
  | refl => exact ⟨h, hs⟩
  | tail _ hmove ih => exact ih.1.move hP ih.2 hmove

/-- No routine is under way: each is done or was given up. -/
def Idle (w : Weave α) : Prop :=
  ∀ strand ∈ w.strands, ∀ routine ∈ strand.left, ∃ a, routine = .done a

end Weave

end Federation
