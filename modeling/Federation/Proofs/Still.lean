import Federation.Directory.Guard
import Federation.Proofs.Confirmed
import Federation.Proofs.Moment

namespace Federation

open Routine

theorem Ensuring.ensure_halts : ∀ e : Ensuring, e.ensure.run.Halts
  | .application displayName => ensureApplication_halts displayName
  | .principal app tags => ensureServicePrincipal_halts app tags
  | .credential app spec => ensureCredential_halts app spec

/-- A directory under a token, and what must not change once the token is cancelled. -/
structure Watched (σ ε : Type) where
  behaviour : Behaviour σ
  cancelled : σ → Bool
  Sound : σ → Prop
  effect : σ → ε
  Interrupts : Call → σ → Prop
  /-- The effect by the time that such a call is interrupted. -/
  standing : Call → σ → ε

namespace Watched

variable {σ ε α : Type} (W : Watched σ ε)

/-- The token is cancelled at a moment with this effect: no later than between two calls, or while
the next call has no answer. -/
inductive Struck : Routine α → σ → ε → Prop
  | idle {left : Routine α} {u : σ} (h : W.cancelled u = true) : Struck left u (W.effect u)
  | waiting {c : Call} {next : c.Outcome → Routine α} {u : σ} (hlive : W.cancelled u = false)
    (h : W.Interrupts c u) : Struck (.call c next) u (W.standing c u)

def Refuses (c : Call) (s : σ) (e : ε) : Prop :=
  (W.behaviour c s).1 = .error (.transport .cancelled) ∧
    W.cancelled (W.behaviour c s).2 = true ∧ W.effect (W.behaviour c s).2 = e

structure Obeys : Prop where
  sound : ∀ c s, W.Sound s → W.Sound (W.behaviour c s).2
  dead : ∀ c s, W.Sound s → W.cancelled s = true → W.Refuses c s (W.effect s)
  cut : ∀ c s, W.Sound s → W.cancelled s = false → W.Interrupts c s →
    W.Refuses c s (W.standing c s)

/-- From the moment on all calls are refused and the effect stays. The attempt fails if it had a
call to make, and what is on record is what was to be put there without one. -/
structure Stopped (m : Routine (Except ReconcileError α)) (s : σ)
    (left : Routine (Except ReconcileError α)) (changes : List Change) (u : σ) (e : ε) : Prop where
  refused : ∀ x ∈ left.events W.behaviour u, x.Refused ∧ W.effect x.after = e
  last : ∃ earlier, m.events W.behaviour s = earlier ++ left.events W.behaviour u
  effect : W.effect (m.run W.behaviour s).2.2 = e
  cancelled : W.cancelled (m.run W.behaviour s).2.2 = true
  recorded : (m.run W.behaviour s).2.1 = changes ++ left.noted
  failed : left.upcoming?.isSome = true → (m.run W.behaviour s).1 = .error .cancelled

def Stops (m : Routine (Except ReconcileError α)) : Prop :=
  ∀ {s left changes u e}, W.Sound s → m.Reaches W.behaviour s left changes u →
    W.Struck left u e → W.Stopped m s left changes u e

/-- From the moment on all calls are refused and the effect stays. The identities that had a call to
make fail, and those not begun have nothing on record. -/
structure Closed (o : Order) (s : σ) (m : Moment σ) (e : ε) : Prop where
  refused : ∀ x ∈ o.eventsFrom W.behaviour m, x.Refused ∧ W.effect x.after = e
  last : ∃ earlier, o.events W.behaviour o.identities s = earlier ++ o.eventsFrom W.behaviour m
  failed : m.left.upcoming?.isSome = true → (m.left.run W.behaviour m.state).1 = .error .cancelled
  outcomes : (o.runEach W.behaviour o.identities s).1 = (o.runEach W.behaviour m.past s).1 ++
    ⟨m.identity.displayName, m.changes ++ m.left.noted, (m.left.run W.behaviour m.state).1⟩ ::
      m.future.map fun i => ⟨i.displayName, [], .error .cancelled⟩
  effect : W.effect (o.run W.behaviour W.cancelled s).2 = e

structure Reported (o : Order) (s : σ) (m : Moment σ) (report : Report) (finishedAt : Instant) :
    Prop where
  cancelled : report.cancelled = true
  finished : report.finishedAt = some finishedAt
  changes : report.changes =
    (o.runEach W.behaviour m.past s).1.flatMap (·.changes) ++ (m.changes ++ m.left.noted)
  errors : ∀ i ∈ m.unfinished, ⟨i.displayName, ReconcileError.cancelled.message⟩ ∈ report.errors

/-- Whatever is done through the directory, nothing more is done once the token is cancelled. An
order that is rejected, or asks for nothing, makes no call at all. -/
structure Stills : Prop where
  ensuring : ∀ e : Ensuring, W.Stops e.ensure.run
  identity : ∀ (o : Order) (i : WorkloadIdentity), W.Stops (o.attempt i).run
  order : ∀ {o : Order} {s : σ} {m : Moment σ} {e : ε}, W.Sound s → o.violation? = none →
    o.Passes W.behaviour s m → W.Struck m.left m.state e →
    W.Closed o s m e ∧ ∃ summary, (o.run W.behaviour W.cancelled s).1 = .ok summary ∧
      ∀ runId startedAt finishedAt,
        W.Reported o s m (summary.report o runId startedAt finishedAt) finishedAt
  rejected : ∀ {o : Order} {why : Violation} (s : σ), o.violation? = some why →
    o.run W.behaviour W.cancelled s = (.error (.declaration why), s)
  empty : ∀ {o : Order} (s : σ), o.identities = [] →
    o.run W.behaviour W.cancelled s = (.ok ⟨W.cancelled s, [], []⟩, s)

variable {W} {s u : σ} {e : ε} {left : Routine (Except ReconcileError α)}

theorem Obeys.struck (hW : W.Obeys) (hs : W.Sound u) (h : W.Struck left u e) :
    (left.upcoming? = none ∧ W.cancelled u = true ∧ W.effect u = e) ∨
      ∃ c, left.upcoming? = some c ∧ W.Refuses c u e := by
  cases h with
  | idle h =>
    cases hc : left.upcoming? with
    | none => exact .inl ⟨rfl, h, rfl⟩
    | some c => exact .inr ⟨c, rfl, hW.dead c u hs h⟩
  | @waiting c next _ hlive h => exact .inr ⟨c, rfl, hW.cut c u hs hlive h⟩

theorem Obeys.stops (hW : W.Obeys) {m : Routine (Except ReconcileError α)} (hm : m.Halts) :
    W.Stops m := by
  intro s left changes u e hs hreaches hstruck
  have hu : W.Sound u := hreaches.preserves hW.sound hs
  have hrun := hreaches.run_eq
  obtain ⟨hnone, hdead, rfl⟩ | ⟨c, hc, hrefused, hdead, rfl⟩ := hW.struck hu hstruck
  -- Nothing is left to call, so what is left ends as if nothing had happened.
  · obtain ⟨hrest, hevents⟩ := run_of_upcoming_none (d := W.behaviour) hnone u
    rw [hrest] at hrun
    exact {
      refused := by simp [hevents]
      last := hreaches.events_eq
      effect := by rw [hrun]
      cancelled := by rw [hrun]; exact hdead
      recorded := by rw [hrun]
      failed := by simp [hnone] }
  -- The next call is refused, and it is the last.
  · obtain ⟨hrest, hevents⟩ := (hreaches.halts hm).refused hrefused hc
    rw [hrest] at hrun
    exact {
      refused := by
        rw [hevents]
        rintro _ (_ | ⟨_, ⟨⟩⟩)
        exact ⟨hrefused, rfl⟩
      last := hreaches.events_eq
      effect := by rw [hrun]
      cancelled := by rw [hrun]; exact hdead
      recorded := by rw [hrun]
      failed := fun _ => by rw [hrun] }

theorem Obeys.runEach_dead (hW : W.Obeys) (o : Order) (identities : List WorkloadIdentity)
    (hu : W.Sound u) (hdead : W.cancelled u = true) :
    (o.runEach W.behaviour identities u).1 =
        identities.map (fun i => ⟨i.displayName, [], .error .cancelled⟩) ∧
      W.effect (o.runEach W.behaviour identities u).2 = W.effect u ∧
      W.cancelled (o.runEach W.behaviour identities u).2 = true ∧
      ∀ x ∈ o.events W.behaviour identities u, x.Refused ∧ W.effect x.after = W.effect u := by
  induction identities generalizing u with
  | nil => exact ⟨rfl, rfl, hdead, List.forall_mem_nil _⟩
  | cons i rest ih =>
    -- An attempt begins with a call, so one with a dead token has nothing on record.
    have hopens := o.attempt_opens i
    have hstopped := hW.stops (o.attempt_halts i) hu (.here _ u) (.idle hdead)
    have hfailed := hstopped.failed hopens.upcoming
    have hrecorded := hstopped.recorded
    rw [hopens.noted] at hrecorded
    obtain ⟨houtcomes, heffect, hcancelled, hrefused⟩ :=
      ih (run_preserves hW.sound _ hu) hstopped.cancelled
    rw [hstopped.effect] at heffect hrefused
    refine ⟨?_, heffect, hcancelled, ?_⟩
    · simp only [Order.runEach, List.map_cons, hfailed, hrecorded, houtcomes, List.append_nil]
    · exact fun x hx => (List.mem_append.mp hx).elim (hstopped.refused x) (hrefused x)

section Orders

variable {o : Order} {m : Moment σ}

theorem run_of_valid (hvalid : o.violation? = none) :
    o.run W.behaviour W.cancelled s =
      (.ok (.ofOutcomes (W.cancelled (o.runEach W.behaviour o.identities s).2)
        (o.runEach W.behaviour o.identities s).1), (o.runEach W.behaviour o.identities s).2) := by
  unfold Order.run
  rw [hvalid]

theorem Obeys.runEach_struck (hW : W.Obeys) (hs : W.Sound s) (hpasses : o.Passes W.behaviour s m)
    (hstruck : W.Struck m.left m.state e) :
    W.cancelled (o.runEach W.behaviour o.identities s).2 = true ∧
      W.effect (o.runEach W.behaviour o.identities s).2 = e ∧
      (∀ x ∈ o.eventsFrom W.behaviour m, x.Refused ∧ W.effect x.after = e) ∧
      (m.left.upcoming?.isSome = true → (m.left.run W.behaviour m.state).1 = .error .cancelled) ∧
      (o.runEach W.behaviour o.identities s).1 = (o.runEach W.behaviour m.past s).1 ++
        ⟨m.identity.displayName, m.changes ++ m.left.noted, (m.left.run W.behaviour m.state).1⟩ ::
          m.future.map fun i => ⟨i.displayName, [], .error .cancelled⟩ := by
  obtain ⟨hidentities, hreaches⟩ := hpasses
  have hpast : W.Sound (o.runEach W.behaviour m.past s).2 := o.runEach_preserves _ hW.sound _ hs
  have hstopped := hW.stops (o.attempt_halts m.identity) hpast hreaches hstruck
  have hrest := hreaches.run_eq
  have hrecorded := hstopped.recorded
  have heffect := hstopped.effect
  have hdead := hstopped.cancelled
  have hfailed := hstopped.failed
  rw [hrest] at hrecorded heffect hdead hfailed
  dsimp only at hrecorded heffect hdead hfailed
  have hsound := run_preserves hW.sound m.left (hreaches.preserves hW.sound hpast)
  obtain ⟨houtcomes, hstays, hcancelled, hrefused⟩ := hW.runEach_dead o m.future hsound hdead
  rw [heffect] at hstays hrefused
  rw [hidentities, o.runEach_append]
  refine ⟨?_, ?_, ?_, hfailed, ?_⟩
  · simpa only [Order.runEach, hrest] using hcancelled
  · simpa only [Order.runEach, hrest] using hstays
  · exact fun x hx => (List.mem_append.mp hx).elim (hstopped.refused x) (hrefused x)
  · simp only [Order.runEach, hrest, houtcomes, hrecorded]

theorem Obeys.closed (hW : W.Obeys) (hs : W.Sound s) (hvalid : o.violation? = none)
    (hpasses : o.Passes W.behaviour s m) (hstruck : W.Struck m.left m.state e) :
    W.Closed o s m e := by
  obtain ⟨-, heffect, hrefused, hfailed, houtcomes⟩ := hW.runEach_struck hs hpasses hstruck
  exact {
    refused := hrefused
    last := hpasses.events_eq
    failed := hfailed
    outcomes := houtcomes
    effect := by rw [run_of_valid hvalid]; exact heffect }

theorem Closed.reported (h : W.Closed o s m e) (runId : Uuid) (startedAt finishedAt : Instant) :
    W.Reported o s m
      ((Summary.ofOutcomes true (o.runEach W.behaviour o.identities s).1).report o runId
        startedAt finishedAt) finishedAt where
  cancelled := rfl
  finished := rfl
  changes := by
    simp [Summary.ofOutcomes, Summary.report, h.outcomes, List.flatMap_map]
  errors := by
    have hfuture : ∀ i ∈ m.future, (⟨i.displayName, [], .error .cancelled⟩ : IdentityOutcome) ∈
        (o.runEach W.behaviour o.identities s).1 := fun i hi => by
      rw [h.outcomes]
      exact List.mem_append_right _ (List.mem_cons_of_mem _ (List.mem_map_of_mem hi))
    intro i hi
    refine List.mem_filterMap.mpr ?_
    by_cases hc : m.left.upcoming?.isSome = true
    · rw [Moment.unfinished, if_pos hc] at hi
      obtain rfl | hi := List.mem_cons.mp hi
      · have hidentity := h.outcomes
        rw [h.failed hc] at hidentity
        refine ⟨⟨m.identity.displayName, m.changes ++ m.left.noted, .error .cancelled⟩, ?_, rfl⟩
        rw [hidentity]
        exact List.mem_append_right _ List.mem_cons_self
      · exact ⟨_, hfuture i hi, rfl⟩
    · rw [Moment.unfinished, if_neg hc] at hi
      exact ⟨_, hfuture i hi, rfl⟩

theorem Obeys.stills (hW : W.Obeys) : W.Stills where
  ensuring e := hW.stops e.ensure_halts
  identity o i := hW.stops (o.attempt_halts i)
  order {o s m e} hs hvalid hpasses hstruck := by
    have hclosed := hW.closed hs hvalid hpasses hstruck
    have hcancelled := (hW.runEach_struck hs hpasses hstruck).1
    refine ⟨hclosed, _, congrArg Prod.fst (run_of_valid hvalid), ?_⟩
    rw [hcancelled]
    exact hclosed.reported
  rejected s hwhy := by
    unfold Order.run
    rw [hwhy]
  empty {o} s hempty := by
    have hvalid : o.violation? = none := by simp [Order.violation?, hempty]
    rw [run_of_valid hvalid, hempty]
    rfl

end Orders

end Watched

namespace RehearsedStore

variable {names : Naming} {r : RehearsedStore}

theorem behaviour_refused (honly : r.OnlyCancels) (h : r.cancelled = true) (c : Call) :
    (behaviour names c r).1 = .error (.transport .cancelled) := by
  unfold behaviour
  cases hd : r.disturbance? c with
  | none => simp [perform_dead, h]
  | some x =>
    obtain ⟨kind, nth, after, error⟩ := x
    obtain rfl : error = none := honly _ (List.mem_of_find?_eq_some hd)
    cases after <;> simp [perform_dead, h]

def Interrupts (c : Call) (r : RehearsedStore) : Prop :=
  ∃ kind nth, r.disturbance? c = some ⟨kind, nth, false, none⟩

theorem Interrupts.behaviour {c : Call} (h : r.Interrupts c) :
    RehearsedStore.behaviour names c r =
      (.error (.transport .cancelled), { r with calls := r.calls ++ [c], cancelled := true }) := by
  obtain ⟨kind, nth, hd⟩ := h
  unfold RehearsedStore.behaviour
  rw [hd]
  rfl

end RehearsedStore

namespace Guarded

variable {σ : Type} {pass : Request → σ → Passage × σ} {g : Guarded σ}

def Interrupts (pass : Request → σ → Passage × σ) (c : Call) (g : Guarded σ) : Prop :=
  (pass c.request g.outside).1 = .unanswered

theorem behaviour_dead (h : g.cancelled = true) (c : Call) :
    behaviour pass c g = (.error (.transport .cancelled), g) := by
  unfold behaviour Gateway.behaviour send
  rw [if_pos h]

theorem Interrupts.behaviour {c : Call} (hlive : g.cancelled = false)
    (h : g.Interrupts pass c) :
    Guarded.behaviour pass c g = (.error (.transport .cancelled),
      ⟨(pass c.request g.outside).2, true, g.requests ++ [c.request]⟩) := by
  unfold Guarded.behaviour Gateway.behaviour send
  rw [if_neg (by simp [hlive])]
  unfold Interrupts at h
  generalize pass c.request g.outside = passed at h
  obtain ⟨passage, outside⟩ := passed
  obtain rfl : passage = .unanswered := h
  rfl

end Guarded

namespace Watched

def memory (names : Naming) : Watched RehearsedStore Store where
  behaviour := RehearsedStore.behaviour names
  cancelled := (·.cancelled)
  Sound := RehearsedStore.OnlyCancels
  effect := (·.store)
  Interrupts c r := r.Interrupts c
  standing _ r := r.store

def gateway {σ : Type} (pass : Request → σ → Passage × σ) : Watched (Guarded σ) (List Request) where
  behaviour := Guarded.behaviour pass
  cancelled := (·.cancelled)
  Sound _ := True
  effect := (·.requests)
  Interrupts := Guarded.Interrupts pass
  standing c g := g.requests ++ [c.request]

theorem memory_obeys (names : Naming) : (memory names).Obeys where
  sound c r hr := by
    change (RehearsedStore.behaviour names c r).2.OnlyCancels
    rwa [RehearsedStore.OnlyCancels, RehearsedStore.disturbances_behaviour]
  dead c r hr hdead :=
    ⟨RehearsedStore.behaviour_refused hr hdead c, RehearsedStore.behaviour_dead hdead c⟩
  cut c r _ _ hcut := by
    unfold Refuses
    dsimp only [memory]
    rw [RehearsedStore.Interrupts.behaviour hcut]
    exact ⟨rfl, rfl, rfl⟩

theorem gateway_obeys {σ : Type} (pass : Request → σ → Passage × σ) : (gateway pass).Obeys where
  sound _ _ _ := trivial
  dead c g _ hdead := by
    unfold Refuses
    dsimp only [gateway]
    rw [Guarded.behaviour_dead hdead]
    exact ⟨rfl, hdead, rfl⟩
  cut c g _ hlive hcut := by
    unfold Refuses
    dsimp only [gateway]
    rw [Guarded.Interrupts.behaviour hlive hcut]
    exact ⟨rfl, rfl, rfl⟩

end Watched

/-- Once its token is cancelled nothing is done any more, in a store or through whatever transport.
A call that is refused for that does not come back empty. -/
theorem stilled_once_cancelled (names : Naming) :
    (Watched.memory names).Stills ∧
      (∀ {σ : Type} (pass : Request → σ → Passage × σ), (Watched.gateway pass).Stills) ∧
      (∀ {σ : Type} {x : Event σ} {e : DirectoryError}, x.Refused → x.outcome = .error e →
        e.isNotFound = false) ∧
      ReconcileError.cancelled.isCancelled = true :=
  ⟨(Watched.memory_obeys names).stills, fun pass => (Watched.gateway_obeys pass).stills,
    fun hx he => hx.isNotFound he, rfl⟩

namespace Halfway

def order : Order := ⟨[⟨"payments", [], []⟩, ⟨"ledger", [], []⟩], .provision, false, 1⟩

def store : RehearsedStore := { RehearsedStore.empty with
  disturbances := [⟨.createApplication, 0, true, none⟩] }

def pass : Request → Nat → Passage × Nat
  | _, 0 => (.answered (.ok ⟨200, .object []⟩) false, 1)
  | _, n + 1 => (.unanswered, n + 2)

end Halfway

open Halfway in
/-- The application that was created by then stays the only object, and is on record; the request
that has no answer is the last one. -/
theorem stilled_at_first_creation :
    (∃ m store', (Watched.memory .counted).Closed order store m store' ∧
      m.unfinished = order.identities ∧ m.changes ++ m.left.noted =
        [.applicationCreated "payments" (some (Naming.counted.application "payments" 0).id)] ∧
      store'.applications.length = 1) ∧
    ∃ m sent, (Watched.gateway pass).Closed order ⟨0, false, []⟩ m sent ∧
      m.unfinished = order.identities ∧
      sent = [(Call.getApplication "payments").request,
        (Call.createApplication "payments").request] := by
  obtain ⟨hmemory, hgateway, -⟩ := stilled_once_cancelled .counted
  have hlive : store.OnlyCancels := fun x hx => by
    obtain rfl := List.mem_singleton.mp hx
    rfl
  constructor
  · refine ⟨_, _, (hmemory.order hlive rfl (Order.passes_momentAt rfl _ 3 store) (.idle ?_)).1,
      ?_, ?_, ?_⟩ <;> rfl
  · refine ⟨_, _, ((hgateway pass).order trivial rfl (Order.passes_momentAt rfl _ 2 _)
      (.waiting ?_ ?_)).1, ?_, ?_⟩ <;> rfl

end Federation
