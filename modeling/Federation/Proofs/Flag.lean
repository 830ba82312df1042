import Federation.Proofs.Confluence
import Federation.Proofs.Moment
import Federation.Proofs.Sequence

namespace Federation

open Store

/-- The identity was cut short: its error is that of a cancelled token. -/
def IdentityOutcome.isUnfinished (o : IdentityOutcome) : Bool :=
  match o.result with
  | .ok () => false
  | .error e => e.isCancelled

theorem IdentityOutcome.isUnfinished_iff {o : IdentityOutcome} :
    o.isUnfinished = true ↔ ∃ e, o.result = .error e ∧ e.isCancelled = true := by
  unfold isUnfinished
  cases o.result <;> simp

/-- A summary whose flag follows the token. Identities are cut short exactly if a call was refused,
and then the flag is raised. It says that some were, and no more, exactly if the token was not
cancelled or refused a call. -/
structure Summary.Follows (summary : Summary) (outcomes : List IdentityOutcome) (token : Bool)
    (refused : Prop) : Prop where
  flag : summary.cancelled = token
  unfinished : (∃ x ∈ outcomes, x.isUnfinished = true) ↔ refused
  raised : (∃ x ∈ outcomes, x.isUnfinished = true) → summary.cancelled = true
  precise : (summary.cancelled = true ↔ ∃ x ∈ outcomes, x.isUnfinished = true) ↔
    (token = true → refused)
  clean : (∀ x ∈ outcomes, x.result = .ok ()) → (summary.isClean = true ↔ token = false)

theorem Summary.follows {outcomes : List IdentityOutcome} {token : Bool} {refused : Prop}
    (hunfinished : (∃ x ∈ outcomes, x.isUnfinished = true) ↔ refused)
    (hraised : refused → token = true) :
    (Summary.ofOutcomes token outcomes).Follows outcomes token refused where
  flag := rfl
  unfinished := hunfinished
  raised h := hraised (hunfinished.mp h)
  precise := by
    rw [hunfinished]
    exact ⟨fun h => h.mp, fun h => ⟨h, hraised⟩⟩
  clean hok := by
    have hnone : (Summary.ofOutcomes token outcomes).errors = [] := by
      refine List.filterMap_eq_nil_iff.mpr fun x hx => ?_
      unfold IdentityOutcome.failure?
      rw [hok x hx]
    unfold Summary.isClean
    rw [hnone]
    simp [Summary.ofOutcomes]

namespace RehearsedStore

variable {names : Naming} {r : RehearsedStore}

theorem cancelled_of_refused (honly : r.OnlyCancels) {c : Call}
    (h : (behaviour names c r).1 = .error (.transport .cancelled)) :
    (behaviour names c r).2.cancelled = true := by
  have hrefused : ∀ r : RehearsedStore, (r.perform names c).1 = .error (.transport .cancelled) →
      (r.perform names c).2.cancelled = true := by
    intro r hr
    cases hlive : r.cancelled with
    | true => rwa [perform_dead hlive]
    | false =>
      rw [perform_live hlive] at hr
      cases (isCancelled_behaviour hr).symm.trans rfl
  unfold behaviour at h ⊢
  cases hd : r.disturbance? c with
  | none =>
    rw [hd] at h
    exact hrefused _ h
  | some x =>
    rw [hd] at h
    obtain ⟨kind, nth, after, error⟩ := x
    obtain rfl : error = none := honly _ (List.mem_of_find?_eq_some hd)
    cases after with
    | false => exact hrefused _ h
    | true => rfl

theorem run_unfinished {a : String} {α : Type} {m : Routine (Except ReconcileError α)}
    (hm : m.Halts) (hkeeps : m.KeepsTo names a (Uncut fun _ => True)) (honly : r.OnlyCancels)
    (hs : r.store.Traced names) :
    ((∃ e, (m.run (behaviour names) r).1 = .error e ∧ e.isCancelled = true) ↔
        ∃ x ∈ m.events (behaviour names) r, x.Refused) ∧
      ((∃ x ∈ m.events (behaviour names) r, x.Refused) →
        (m.run (behaviour names) r).2.2.cancelled = true) ∧
      (m.run (behaviour names) r).2.2.store.Traced names := by
  induction m generalizing r with
  | done result =>
    -- No answer of a store is the error of a cancelled token, so the routine has not met one.
    refine ⟨iff_of_false ?_ (by simp [Routine.events]), by simp [Routine.events], hs⟩
    rintro ⟨e, he, hcancelled⟩
    obtain rfl : result = .error e := he
    exact Bool.false_ne_true (Eq.trans (Eq.symm hkeeps) hcancelled)
  | call c next ih =>
    have honly' : (behaviour names c r).2.OnlyCancels := by
      rwa [OnlyCancels, disturbances_behaviour]
    have hrun : (Routine.call c next).run (behaviour names) r =
        (next (behaviour names c r).1).run (behaviour names) (behaviour names c r).2 := rfl
    simp only [hrun, Routine.events, List.mem_cons, exists_eq_or_imp]
    -- The call goes to the store, or it is refused and the routine quits.
    obtain ⟨houtcome, hstore⟩ | ⟨houtcome, hstore⟩ := @behaviour_cases names r honly c
    · have hnot : ¬ (⟨r, c, (behaviour names c r).1, (behaviour names c r).2⟩ :
          Event RehearsedStore).Refused := by
        intro hr
        have hr : (Store.behaviour names c r.store).1 = .error (.transport .cancelled) :=
          houtcome.symm.trans hr
        cases (isCancelled_behaviour hr).symm.trans rfl
      have hnext := ih (behaviour names c r).1 (hm.2 _)
        (by rw [houtcome]; exact hkeeps.2 _ hs) honly' (by rw [hstore]; exact hs.call c)
      simpa only [hnot, false_or] using hnext
    · have hquits : (next (behaviour names c r).1).Quits := by
        rw [houtcome]
        exact hm.1
      rw [hquits.run, hquits.events]
      refine ⟨iff_of_true ⟨_, rfl, rfl⟩ (.inl houtcome),
        fun _ => cancelled_of_refused honly houtcome, ?_⟩
      rw [hstore]
      exact hs
  | acquire _ next ih | release _ next ih | record _ next ih => exact ih hm hkeeps honly hs

theorem runEach_unfinished (o : Order) (identities : List WorkloadIdentity) (honly : r.OnlyCancels)
    (hs : r.store.Traced names) :
    ((∃ x ∈ (o.runEach (behaviour names) identities r).1, x.isUnfinished = true) ↔
        ∃ x ∈ o.events (behaviour names) identities r, x.Refused) ∧
      ((∃ x ∈ o.events (behaviour names) identities r, x.Refused) →
        (o.runEach (behaviour names) identities r).2.cancelled = true) ∧
      (o.runEach (behaviour names) identities r).1.map (·.displayName) =
        identities.map (·.displayName) := by
  induction identities generalizing r with
  | nil => simp [Order.runEach, Order.events]
  | cons identity rest ih =>
    obtain ⟨hcut, hdead, hs'⟩ := run_unfinished (o.attempt_halts identity)
      (o.attempt_keepsTo identity) honly hs
    have honly' : ((o.attempt identity).run.run (behaviour names) r).2.2.OnlyCancels := by
      rwa [OnlyCancels, disturbances_run]
    obtain ⟨hrest, hdead', hnames⟩ := ih honly' hs'
    simp only [Order.runEach, Order.events, List.exists_mem_cons_iff, List.mem_append,
      or_and_right, exists_or, IdentityOutcome.isUnfinished_iff, List.map_cons, hnames] at hrest ⊢
    refine ⟨or_congr hcut hrest, ?_, trivial⟩
    rintro (hrefused | hrefused)
    -- Once cancelled, the token stays so while the rest is worked on.
    · exact o.runEach_preserves _ (P := fun r : RehearsedStore => r.cancelled = true)
        (fun c _ hs => (behaviour_dead hs c).1) rest (hdead hrefused)
    · exact hdead' hrefused

end RehearsedStore

namespace Crew

variable {α : Type} {names : Naming} {permits : Nat → Nat} {c c' : Crew α}

def cancel (c : Crew α) : Crew α :=
  { c with weave := { c.weave with
      strands := c.weave.strands.map fun strand => { strand with cancelled := true } } }

/-- A crew and whether its token is cancelled: a task takes a step, or the token is cancelled. -/
inductive Turn (names : Naming) (permits : Nat → Nat) : Crew α × Bool → Crew α × Bool → Prop
  | step {c c' : Crew α} {token : Bool} (h : Step names permits c c') :
      Turn names permits (c, token) (c', token)
  | cancel (c : Crew α) (token : Bool) : Turn names permits (c, token) (c.cancel, true)

theorem getElem?_cancel {p : Nat} {strand : Strand α} (h : c.weave.strands[p]? = some strand) :
    c.cancel.weave.strands[p]? = some { strand with cancelled := true } := by
  unfold cancel
  rw [List.getElem?_map, h]
  rfl

theorem Manned.cancel (h : c.Manned names) : c.cancel.Manned names where
  upheld := h.upheld.moves (Weave.moves_cancel c.weave)
  length := h.length.trans (List.length_map _).symm
  left strand hstrand := by
    obtain ⟨before, hbefore, rfl⟩ := List.mem_map.mp hstrand
    exact h.left before hbefore
  claims := h.claims
  done p order stage hp hlate := by
    obtain ⟨strand, a, hs, hl⟩ := h.done p order stage hp hlate
    exact ⟨_, a, getElem?_cancel hs, hl⟩
  nodup := h.nodup
  joined := h.joined

end Crew

/-- An attempt under way that goes on as it would with a live token, or has had a call refused and
will fail for that. -/
def Strand.Minds (names : Naming) (a : String) (strand : Strand (Except ReconcileError Unit)) :
    Prop :=
  ∃ m, strand.left = some m ∧
    ((∃ d ∈ strand.deeds, d.isRefused = true) ∧ strand.cancelled = true ∧ m.Quits ∨
      (∀ d ∈ strand.deeds, d.isRefused = false) ∧ m.Halts ∧
        m.KeepsTo names a (Uncut fun _ => True))

structure Weave.Minded (names : Naming) (identities : List WorkloadIdentity) (token : Bool)
    (w : Weave (Except ReconcileError Unit)) : Prop where
  traced : w.store.Traced names
  length : w.strands.length = identities.length
  token : ∀ strand ∈ w.strands, strand.cancelled = token
  strands : ∀ (p : Nat) (identity : WorkloadIdentity)
    (strand : Strand (Except ReconcileError Unit)), identities[p]? = some identity →
    w.strands[p]? = some strand → strand.Minds names identity.displayName

namespace Weave

variable {names : Naming} {identities : List WorkloadIdentity} {token : Bool}
  {w w' : Weave (Except ReconcileError Unit)}

theorem Minded.set (h : w.Minded names identities token) {p : Nat}
    {strand strand' : Strand (Except ReconcileError Unit)} (hp : w.strands[p]? = some strand)
    (hminds : strand'.cancelled = strand.cancelled ∧
      ∀ a, strand.Minds names a → strand'.Minds names a) (locks : LockTable Nat)
    {s : Store} (hs : s.Traced names) :
    Minded names identities token ⟨w.strands.set p strand', locks, s⟩ where
  traced := hs
  length := List.length_set.trans h.length
  token other ho := by
    obtain ho | rfl := List.mem_or_eq_of_mem_set ho
    · exact h.token other ho
    · exact hminds.1.trans (h.token strand (List.mem_of_getElem? hp))
  strands q identity other hq ho := by
    by_cases hqp : q = p
    · subst hqp
      obtain rfl : strand' = other := Option.some.inj ((getElem?_set hp strand').symm.trans ho)
      exact hminds.2 _ (h.strands q identity strand hq hp)
    · change (w.strands.set p strand')[q]? = some other at ho
      rw [List.getElem?_set_ne (Ne.symm hqp)] at ho
      exact h.strands q identity other hq ho

theorem Minded.step (h : w.Minded names identities token) (hstep : Step names w w') :
    w'.Minded names identities token := by
  cases hstep with
  | ask | take => exact ⟨h.traced, h.length, h.token, h.strands⟩
  | enter hp hl | leave hp hl =>
    refine h.set hp ?_ _ h.traced
    refine ⟨rfl, fun a ⟨m, hm, hgoes⟩ => ?_⟩
    obtain rfl := Option.some.inj (hl.symm.trans hm)
    exact ⟨_, rfl, hgoes⟩
  | note hp hl =>
    refine h.set hp ?_ _ h.traced
    refine ⟨rfl, fun a ⟨m, hm, hgoes⟩ => ?_⟩
    obtain rfl := Option.some.inj (hl.symm.trans hm)
    obtain ⟨-, -, hquits⟩ | hgoes := hgoes
    · cases hquits
    · exact ⟨_, rfl, .inr hgoes⟩
  | @call p strand c next hp hl hlive =>
    refine h.set hp ?_ _ (h.traced.call c)
    refine ⟨rfl, fun a ⟨m, hm, hgoes⟩ => ?_⟩
    obtain rfl := Option.some.inj (hl.symm.trans hm)
    obtain ⟨-, -, hquits⟩ | ⟨hnone, hhalts, hkeeps⟩ := hgoes
    · cases hquits
    · refine ⟨_, rfl, .inr ⟨fun d hd => ?_, hhalts.2 _, hkeeps.2 _ h.traced⟩⟩
      obtain hd | hd := List.mem_append.mp hd
      · exact hnone d hd
      · rw [List.mem_singleton.mp hd]
        exact isRefused_done c w.store
  -- A refused call is the last one, and the attempt fails for it.
  | @refuse p strand c next hp hl hdead =>
    refine h.set hp ?_ _ h.traced
    refine ⟨rfl, fun a ⟨m, hm, hgoes⟩ => ?_⟩
    obtain rfl := Option.some.inj (hl.symm.trans hm)
    obtain ⟨-, -, hquits⟩ | ⟨hnone, hhalts, hkeeps⟩ := hgoes
    · cases hquits
    · have hlast : Deed.refused c w.store ∈ strand.deeds ++ [.refused c w.store] := by simp
      exact ⟨_, rfl, .inl ⟨⟨_, hlast, rfl⟩, hdead, hhalts.1⟩⟩

theorem Minded.cancel {c : Crew (Except ReconcileError Unit)}
    (h : c.weave.Minded names identities token) : c.cancel.weave.Minded names identities true where
  traced := h.traced
  length := (List.length_map _).trans h.length
  token strand hstrand := by
    obtain ⟨before, -, rfl⟩ := List.mem_map.mp hstrand
    rfl
  strands p identity strand hp hstrand := by
    have hlt := (List.getElem?_eq_some_iff.mp hp).1
    rw [← h.length] at hlt
    have hbefore := List.getElem?_eq_getElem hlt
    obtain rfl := Option.some.inj ((Crew.getElem?_cancel hbefore).symm.trans hstrand)
    obtain ⟨m, hm, ⟨hrefused, -, hquits⟩ | hgoes⟩ := h.strands p identity _ hp hbefore
    · exact ⟨m, hm, .inl ⟨hrefused, rfl, hquits⟩⟩
    · exact ⟨m, hm, .inr hgoes⟩

end Weave

theorem Strand.Minds.unfinished {names : Naming} {a : String}
    {strand : Strand (Except ReconcileError Unit)} (h : strand.Minds names a)
    {r : Except ReconcileError Unit} (hl : strand.left = some (.done r)) (displayName : String) :
    (IdentityOutcome.mk displayName strand.changes r).isUnfinished = true ↔
      ∃ d ∈ strand.deeds, d.isRefused = true := by
  obtain ⟨m, hm, hgoes⟩ := h
  obtain rfl := Option.some.inj (hl.symm.trans hm)
  rw [IdentityOutcome.isUnfinished_iff]
  obtain ⟨hrefused, -, hquits⟩ | ⟨hnone, -, hkeeps⟩ := hgoes
  · exact iff_of_true ⟨_, hquits, rfl⟩ hrefused
  · refine iff_of_false ?_ ?_
    · rintro ⟨e, he, hcancelled⟩
      obtain rfl : r = .error e := he
      exact Bool.false_ne_true (Eq.trans (Eq.symm hkeeps) hcancelled)
    · rintro ⟨d, hd, hrefused⟩
      rw [hnone d hd] at hrefused
      cases hrefused

namespace Order

variable {names : Naming} {o : Order} {locks : LockTable Nat} {s : Store}

theorem crew_minded (o : Order) (locks : LockTable Nat) (hs : s.Traced names) :
    (o.crew locks s).weave.Minded names o.identities false where
  traced := hs
  length := by simp [crew, Crew.start, Weave.start]
  token strand hstrand := by
    obtain ⟨routine, -, rfl⟩ := List.mem_map.mp hstrand
    rfl
  strands p identity strand hp hstrand := by
    have hstart : (o.crew locks s).weave.strands[p]? = some (.start (o.attempt identity).run) := by
      simp [crew, Crew.start, Weave.start, hp]
    obtain rfl := Option.some.inj (hstart.symm.trans hstrand)
    exact ⟨_, rfl, .inr ⟨List.forall_mem_nil _, o.attempt_halts identity,
      o.attempt_keepsTo identity⟩⟩

theorem minded_of_turns (hn : names.Distinct) (hlocks : locks.Sound) (hfree : locks.claims = [])
    (hs : s.Traced names) {c : Crew (Except ReconcileError Unit)} {token : Bool}
    (hturns : Relation.ReflTransGen (Crew.Turn names fun _ => o.permits) (o.crew locks s, false)
      (c, token)) : c.Manned names ∧ c.weave.Minded names o.identities token := by
  suffices ∀ x, Relation.ReflTransGen (Crew.Turn names fun _ => o.permits)
      (o.crew locks s, false) x → x.1.Manned names ∧ x.1.weave.Minded names o.identities x.2 from
    this _ hturns
  intro x hx
  induction hx with
  | refl => exact ⟨o.crew_manned hn hlocks hfree hs.toSound, o.crew_minded locks hs⟩
  | tail _ hturn ih =>
    obtain ⟨hmanned, hminded⟩ := ih
    cases hturn with
    | cancel c token => exact ⟨hmanned.cancel, hminded.cancel⟩
    | step hstep =>
      refine ⟨hmanned.step hstep, ?_⟩
      cases hstep with
      | enter _ _ | leave _ _ _ | join _ => exact hminded
      | work _ hgo => exact hminded.step (Weave.step_of_go hgo)

section Done

variable {c : Crew (Except ReconcileError Unit)} {token : Bool}

theorem outcomeAt_of_done (hmanned : c.Manned names)
    (hminded : c.weave.Minded names o.identities token) (hdone : c.Done) {p : Nat}
    {identity : WorkloadIdentity} (hp : o.identities[p]? = some identity) :
    ∃ strand outcome, c.weave.strands[p]? = some strand ∧ o.outcomeAt c p = some outcome ∧
      outcome.displayName = identity.displayName ∧
      (outcome.isUnfinished = true ↔ ∃ d ∈ strand.deeds, d.isRefused = true) := by
  have hlt := (List.getElem?_eq_some_iff.mp hp).1
  rw [← hminded.length, ← hmanned.length] at hlt
  have htask : c.tasks[p]? = some (c.tasks[p].1, .joined) :=
    (List.getElem?_eq_getElem hlt).trans
      (congrArg some (Prod.ext rfl (hdone _ (List.getElem_mem hlt))))
  obtain ⟨strand, r, hstrand, hl⟩ := hmanned.done p _ _ htask (.inr rfl)
  refine ⟨strand, ⟨identity.displayName, strand.changes, r⟩, hstrand, ?_, rfl,
    (hminded.strands p identity strand hp hstrand).unfinished hl _⟩
  simp only [outcomeAt, hp, hstrand, Option.bind_eq_bind, Option.bind_some, Strand.outcome?,
    Strand.result?_eq_some.mpr hl, Option.map_some]

theorem outcomes_of_done (hmanned : c.Manned names)
    (hminded : c.weave.Minded names o.identities token) (hdone : c.Done) :
    let outcomes := c.joined.mergeSort.filterMap (o.outcomeAt c)
    outcomes.map (·.displayName) = o.identities.map (·.displayName) ∧
      ((∃ x ∈ outcomes, x.isUnfinished = true) ↔
        ∃ strand ∈ c.weave.strands, ∃ d ∈ strand.deeds, d.isRefused = true) := by
  have hlength : c.tasks.length = o.identities.length := hmanned.length.trans hminded.length
  have houtcome := fun (p : Nat) (identity : WorkloadIdentity)
    (hp : o.identities[p]? = some identity) => outcomeAt_of_done hmanned hminded hdone hp
  dsimp only
  rw [mergeSort_of_perm_range (hmanned.joined_perm hdone), hlength]
  refine ⟨?_, ⟨?_, ?_⟩⟩
  · rw [List.map_filterMap]
    refine filterMap_range fun p identity hp => ?_
    obtain ⟨strand, outcome, -, hat, hname, -⟩ := houtcome p identity hp
    rw [hat, Option.map_some, hname]
  · rintro ⟨x, hx, hcut⟩
    obtain ⟨p, hp, hat⟩ := List.mem_filterMap.mp hx
    obtain ⟨strand, outcome, hstrand, hat', -, hrefused⟩ :=
      houtcome p _ (List.getElem?_eq_getElem (List.mem_range.mp hp))
    obtain rfl := Option.some.inj (hat'.symm.trans hat)
    exact ⟨strand, List.mem_of_getElem? hstrand, hrefused.mp hcut⟩
  · rintro ⟨strand, hstrand, hrefused⟩
    obtain ⟨p, hp⟩ := List.getElem?_of_mem hstrand
    have hlt := (List.getElem?_eq_some_iff.mp hp).1
    rw [hminded.length] at hlt
    obtain ⟨strand', outcome, hstrand', hat, -, hiff⟩ := houtcome p _ (List.getElem?_eq_getElem hlt)
    obtain rfl := Option.some.inj (hstrand'.symm.trans hp)
    exact ⟨outcome, List.mem_filterMap.mpr ⟨p, List.mem_range.mpr hlt, hat⟩, hiff.mpr hrefused⟩

end Done

end Order

theorem Weave.Minded.token_of_refused {names : Naming} {identities : List WorkloadIdentity}
    {token : Bool} {w : Weave (Except ReconcileError Unit)} (h : w.Minded names identities token)
    (hrefused : ∃ strand ∈ w.strands, ∃ d ∈ strand.deeds, d.isRefused = true) : token = true := by
  obtain ⟨strand, hstrand, d, hd, hr⟩ := hrefused
  obtain ⟨p, hp⟩ := List.getElem?_of_mem hstrand
  have hlt := (List.getElem?_eq_some_iff.mp hp).1
  rw [h.length] at hlt
  obtain ⟨m, -, ⟨-, hdead, -⟩ | ⟨hnone, -⟩⟩ :=
    h.strands p _ strand (List.getElem?_eq_getElem hlt) hp
  · rw [← h.token strand hstrand, hdead]
  · rw [hnone d hd] at hr
    cases hr

/-- The flag of a report is the state of the token at the end, in a run that takes one identity
after another and in one that takes turns. If an identity was cut short the flag is raised; that it
is raised means so exactly if the token, where it was cancelled, refused a call. -/
theorem flag_follows_token {names : Naming} (hn : names.Distinct) {s : Store}
    (hs : s.Reachable names) {o : Order} (hvalid : o.violation? = none) :
    (∀ r : RehearsedStore, r.store = s → r.OnlyCancels →
      let (outcomes, r') := o.runEach (RehearsedStore.behaviour names) o.identities r
      let summary := Summary.ofOutcomes r'.cancelled outcomes
      o.run (RehearsedStore.behaviour names) (·.cancelled) r = (.ok summary, r') ∧
      outcomes.map (·.displayName) = o.identities.map (·.displayName) ∧
      summary.Follows outcomes r'.cancelled
        (∃ x ∈ o.events (RehearsedStore.behaviour names) o.identities r, x.Refused)) ∧
    ∀ {locks : LockTable Nat}, locks.Sound → locks.claims = [] →
      ∀ {c : Crew (Except ReconcileError Unit)} {token : Bool},
      Relation.ReflTransGen (Crew.Turn names fun _ => o.permits)
        (o.crew locks s, false) (c, token) →
      (∀ c', ¬ Crew.Step names (fun _ => o.permits) c c') →
      let outcomes := c.joined.mergeSort.filterMap (o.outcomeAt c)
      c.Done ∧ outcomes.map (·.displayName) = o.identities.map (·.displayName) ∧
      (Summary.ofOutcomes token outcomes).Follows outcomes token
        (∃ strand ∈ c.weave.strands, ∃ d ∈ strand.deeds, d.isRefused = true) := by
  refine ⟨fun r hstore honly => ?_, fun hlocks hfree c token hturns hstuck => ?_⟩
  · subst hstore
    obtain ⟨hcut, hdead, hnames⟩ := RehearsedStore.runEach_unfinished o o.identities honly hs.traced
    refine ⟨?_, hnames, Summary.follows hcut hdead⟩
    unfold Order.run
    rw [hvalid]
  · obtain ⟨hmanned, hminded⟩ := Order.minded_of_turns hn hlocks hfree hs.traced hturns
    have hdone := hmanned.done_of_stuck (fun _ => Nat.le_max_left 1 o.concurrency) hstuck
    obtain ⟨hnames, hcut⟩ := Order.outcomes_of_done hmanned hminded hdone
    exact ⟨hdone, hnames, Summary.follows hcut hminded.token_of_refused⟩

namespace Late

def order : Order := ⟨[⟨"payments", ["tether"], []⟩], .provision, false, 1⟩

def start : RehearsedStore :=
  RehearsedStore.empty.prepare [⟨.createServicePrincipal, 0, true, none⟩]

theorem order_valid : order.violation? = none := by decide +kernel

theorem start_onlyCancels : start.OnlyCancels := by
  intro x hx
  obtain rfl := List.mem_singleton.mp hx
  rfl

end Late

/-- The token is cancelled after the last call: the flag is raised, and no call was refused. -/
theorem flag_follows_token_late :
    Naming.counted.Distinct ∧ Store.empty.Reachable .counted ∧ Late.order.violation? = none ∧
    Late.start.OnlyCancels ∧
    let d := RehearsedStore.behaviour .counted
    let (outcomes, r') := Late.order.runEach d Late.order.identities Late.start
    (Summary.ofOutcomes r'.cancelled outcomes).cancelled = true ∧
      ¬ ∃ x ∈ Late.order.events d Late.order.identities Late.start, x.Refused := by
  obtain ⟨-, -, hfollows⟩ := (flag_follows_token Naming.counted_distinct .empty
    Late.order_valid).1 Late.start rfl Late.start_onlyCancels
  refine ⟨Naming.counted_distinct, .empty, Late.order_valid, Late.start_onlyCancels,
    hfollows.flag, fun hrefused => ?_⟩
  obtain ⟨x, hx, hcut⟩ := hfollows.unfinished.mpr hrefused
  obtain rfl := List.mem_singleton.mp hx
  cases hcut

/-- Every identity of this run finished, none with an error, and its report is not clean: the token
was cancelled after the last call. -/
theorem finished_run_flagged :
    let (outcomes, r) :=
      Late.order.runEach (RehearsedStore.behaviour .counted) Late.order.identities Late.start
    let (result, _) :=
      Late.order.run (RehearsedStore.behaviour .counted) (·.cancelled) Late.start
    Late.order.violation? = none ∧ Late.start.OnlyCancels ∧ Late.start.store.Reachable .counted ∧
    r.store.applications.length = 1 ∧ r.store.principals.length = 1 ∧
    (∀ x ∈ outcomes, x.result = .ok ()) ∧
    ∃ summary, result = .ok summary ∧ summary.errors = [] ∧ summary.cancelled = true ∧
      summary.isClean = false ∧
      ¬ (summary.cancelled = true ↔ ∃ x ∈ outcomes, x.isUnfinished = true) := by
  refine ⟨Late.order_valid, Late.start_onlyCancels, .empty, rfl, rfl, ?_, _, rfl, rfl, rfl, rfl, ?_⟩
  · intro x hx
    obtain rfl := List.mem_singleton.mp hx
    rfl
  · intro h
    obtain ⟨x, hx, hcut⟩ := h.mp rfl
    obtain rfl := List.mem_singleton.mp hx
    cases hcut

end Federation
