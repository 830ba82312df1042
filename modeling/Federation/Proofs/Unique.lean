import Federation.Proofs.Bookkeeping
import Federation.Proofs.Upheld
import Federation.Reconcile.Run

namespace Federation

open Store

def Ensured.map {α β : Type} (f : α → β) : Ensured α → Ensured β
  | .existing a => .existing (f a)
  | .created a => .created (f a)

inductive Ensuring
  | application (displayName : String)
  | principal (app : Application) (tags : List String)
  | credential (app : Application) (spec : CredentialSpec)
  deriving DecidableEq

namespace Ensuring

def application? : Ensuring → Option Application
  | .application _ => none
  | .principal app _ | .credential app _ => some app

def aim : Ensuring → Aim
  | .application displayName => .application displayName
  | .principal app _ => .principal app.displayName
  | .credential app spec => .credential app.id spec.issuer spec.subject

def attempt : Ensuring → Attempt (Ensured ObjectId)
  | .application displayName => do return (← ensureApplication displayName).map (·.id)
  | .principal app tags => do return (← ensureServicePrincipal app tags).map (·.id)
  | .credential app spec => do return (← ensureCredential app spec).map (·.id)

end Ensuring

/-- What a caller can set going: one object is ensured, or an order is carried out for one
identity. -/
inductive Errand
  | ensure (e : Ensuring)
  | attend (o : Order) (identity : WorkloadIdentity)

namespace Errand

def application? : Errand → Option Application
  | .ensure e => e.application?
  | .attend _ _ => none

def attempt : Errand → Attempt Unit
  | .ensure e => do
    let _ ← e.attempt
    return
  | .attend o identity => o.attempt identity

end Errand

namespace Weave

def Gave {α : Type} (w : Weave α) (app : Application) : Prop :=
  ∃ strand ∈ w.strands, ∃ d ∈ strand.deeds, d.application? = some app

/-- The weaves that errands come to when nothing is there at first: any errand can join at any
time, if the application it is for was given out before. -/
inductive Reached (names : Naming) : Weave (Except ReconcileError Unit) → Prop
  | start : Reached names (.start [] .empty .empty)
  | join {w : Weave (Except ReconcileError Unit)} {e : Errand} (h : Reached names w)
      (happ : ∀ app ∈ e.application?, w.Gave app) :
      Reached names { w with strands := w.strands ++ [.start e.attempt.run] }
  | move {w w' : Weave (Except ReconcileError Unit)} (h : Reached names w)
      (hmove : Move names w w') : Reached names w'

theorem Reached.steps {names : Naming} {w w' : Weave (Except ReconcileError Unit)}
    (h : Reached names w) (hsteps : Relation.ReflTransGen (Step names) w w') :
    Reached names w' := by
  induction hsteps with
  | refl => exact h
  | tail _ hstep ih => exact ih.move (.step hstep)

end Weave

variable {names : Naming} {calm : Bool}

theorem makes_persists :
    Deed.Persists names fun _ d => ∀ app ∈ d.application?, names.Makes app where
  done c s hs app happ := by
    cases c with
    | getApplication displayName =>
      cases hr : (behaviour names (.getApplication displayName) s).1 with
      | ok found =>
        rw [Deed.done_eq hr] at happ
        cases happ
        exact makes_of_lookup hs hr
      | error e =>
        rw [Deed.done_eq hr] at happ
        cases happ
    | createApplication displayName =>
      cases happ
      exact ⟨_, rfl⟩
    | _ => cases happ
  refused c s app happ := by
    cases c <;> cases happ
  cancel _ _ h := h

theorem Standing.Ensures.free {α : Type} {st st' : Standing} {Found : α → Prop}
    {kind : Change.Kind} {id : α → ObjectId} {r : Except ReconcileError (Ensured α)}
    (h : st.Ensures calm Found kind id r st') (hfree : st.hold = none) : st'.hold = none := by
  cases r with
  | ok a => exact h.2.free hfree
  | error e =>
    obtain hleads | hbreaks := h
    · exact hleads.free hfree
    · simpa [hfree] using hbreaks.lock

theorem Settled.free {r : Except ReconcileError Unit} {st : Standing} (h : Settled calm r st) :
    st.hold = none := by
  cases r with
  | ok _ => exact Standing.Even.free h
  | error e => exact h.elim (·.free) (·.free)

theorem Ensuring.abides (hn : names.Distinct) (e : Ensuring)
    (happ : ∀ app ∈ e.application?, names.Makes app) :
    Abides names calm (fun _ st => st.hold = none) ⟨none, [], []⟩ e.attempt.run := by
  cases e with
  | application displayName =>
    exact Abides.andThen (ensureApplication_abides rfl sealed_nil displayName)
      (fun _ _ h => Abides.pure (Standing.Ensures.free h rfl)) fun _ _ h => h.free rfl
  | principal app tags =>
    exact Abides.andThen (ensureServicePrincipal_abides hn rfl sealed_nil (happ app rfl) tags)
      (fun _ _ h => Abides.pure (Standing.Ensures.free h rfl)) fun _ _ h => h.free rfl
  | credential app spec =>
    exact Abides.andThen (ensureCredential_abides rfl sealed_nil app spec)
      (fun _ _ h => Abides.pure (Standing.Ensures.free h rfl)) fun _ _ h => h.free rfl

theorem Errand.abides (hn : names.Distinct) (e : Errand)
    (happ : ∀ app ∈ e.application?, names.Makes app) :
    Abides names false (fun _ st => st.hold = none) ⟨none, [], []⟩ e.attempt.run := by
  cases e with
  | ensure e =>
    exact Abides.andThen (e.abides hn happ) (fun _ _ h => Abides.pure h) fun _ _ h => h
  | attend o identity =>
    change Abides _ _ _ _ (o.attempt identity).run
    unfold Order.attempt
    cases o.action with
    | provision =>
      cases o.dryRun with
      | false =>
        exact (provision_abides hn identity (Standing.even_start _)).mono fun _ _ h => h.free
      | true =>
        exact (planProvision_abides identity (Standing.even_start _)).mono fun _ _ h => h.free
    | teardown =>
      exact (teardown_abides identity _ (Standing.even_start _)).mono fun _ _ h => h.free

namespace Weave

theorem Reached.upheld (hn : names.Distinct) {w : Weave (Except ReconcileError Unit)}
    (h : Reached names w) :
    w.Upheld names false (fun _ st => st.hold = none) ∧
      w.Each fun _ d => ∀ app ∈ d.application?, names.Makes app := by
  induction h with
  | start =>
    exact ⟨upheld_start LockTable.sound_empty rfl sound_empty fun _ hr => (nomatch hr),
      each_start _ _ _⟩
  | join _ happ ih =>
    obtain ⟨hupheld, heach⟩ := ih
    refine ⟨hupheld.join (Errand.abides hn _ fun app ha => ?_), fun strand hs d hd => ?_⟩
    · obtain ⟨strand, hs, d, hd, hgave⟩ := happ app ha
      exact heach strand hs d hd app hgave
    · obtain hs | hs := List.mem_append.mp hs
      · exact heach strand hs d hd
      · rw [List.mem_singleton.mp hs] at hd
        cases hd
  | move _ hmove ih => exact ⟨ih.1.move hmove, (ih.2.move makes_persists ih.1.store hmove).1⟩

theorem Upheld.ids_move {α : Type} {post : α → Standing → Prop} {w w' : Weave α}
    (h : w.Upheld names calm post) (hmove : w.Move names w') (aim : Aim)
    (hone : (aim.ids w.store).length ≤ 1) : (aim.ids w'.store).length ≤ 1 := by
  cases hmove with
  | step hstep =>
    obtain hless | ⟨-, id, hone⟩ := h.ids_step hstep aim
    · exact hless.length_le.trans hone
    · rw [hone]
      exact Nat.le_refl 1
  | cancel | quit => exact hone

/-- At most one application or service principal goes by a display name, and at most one credential
of an application by an issuer and a subject. -/
theorem Reached.ids_le_one (hn : names.Distinct) {w : Weave (Except ReconcileError Unit)}
    (h : Reached names w) (aim : Aim) : (aim.ids w.store).length ≤ 1 := by
  induction h with
  | start => cases aim <;> exact Nat.zero_le 1
  | join _ _ ih => exact ih
  | move h hmove ih => exact (h.upheld hn).1.ids_move hmove aim ih

theorem Upheld.claims_of_done {α : Type} {w : Weave α}
    (h : w.Upheld names calm fun _ st => st.hold = none) {p : Nat} {strand : Strand α}
    (hp : w.strands[p]? = some strand) (hdone : ∀ routine ∈ strand.left, ∃ a, routine = .done a) :
    ∀ c ∈ w.locks.claims, c.task ≠ p := by
  have hstrand := h.strands p strand hp
  unfold Strand.Upheld at hstrand
  cases hl : strand.left with
  | none => rwa [hl] at hstrand
  | some routine =>
    rw [hl] at hstrand
    obtain ⟨hold, habides, -, hclaimed⟩ := hstrand
    obtain ⟨a, rfl⟩ := hdone routine hl
    obtain rfl : hold = none := habides
    intro c hc htask
    obtain ⟨next, he⟩ := hclaimed c hc htask
    cases he

theorem Upheld.claims_of_idle {α : Type} {w : Weave α}
    (h : w.Upheld names calm fun _ st => st.hold = none) (hidle : w.Idle) :
    w.locks.claims = [] := by
  refine List.eq_nil_iff_forall_not_mem.mpr fun c hc => ?_
  have hp := List.getElem?_eq_getElem (h.placed c hc)
  exact h.claims_of_done hp (hidle _ (List.mem_of_getElem? hp)) c hc rfl

end Weave

end Federation
