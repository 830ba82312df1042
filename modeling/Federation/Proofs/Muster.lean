import Federation.Proofs.Flag

namespace Federation

namespace Crew

variable {α : Type} {names : Naming} {permits : Nat → Nat} {c c' : Crew α}

/-- A task takes a step, or its token is cancelled, which happens once. -/
inductive Move (names : Naming) (permits : Nat → Nat) : Crew α → Crew α → Prop
  | step {c c' : Crew α} (h : Step names permits c c') : Move names permits c c'
  | cancel {c : Crew α} {p : Nat} {strand : Strand α} (hp : c.weave.strands[p]? = some strand)
      (hlive : strand.cancelled = false) :
      Move names permits c
        { c with weave := c.weave.put p { strand with cancelled := true } }

def live (c : Crew α) : Nat := c.weave.strands.countP (!·.cancelled)

/-- A step leaves less to do. To cancel a token leaves as much to do, and one token fewer to
cancel. -/
theorem Move.less (h : Move names permits c c') :
    Prod.Lex (Relation.CutExpand (Prod.Lex Routine.After (· < ·))) (· < ·) (c'.work, c'.live)
      (c.work, c.live) := by
  cases h with
  | step hstep => exact .left _ _ hstep.less
  | @cancel p strand hp hlive =>
    have hlt := (List.getElem?_eq_some_iff.mp hp).1
    have hget : c.weave.strands[p] = strand := (List.getElem?_eq_some_iff.mp hp).2
    -- What is due goes by what is left of the routines, and that stays.
    have hwork : work { c with weave := c.weave.put p { strand with cancelled := true } } =
        c.work := by
      refine Multiset.map_congr rfl fun q _ => ?_
      by_cases hq : q = p
      · subst hq
        simp only [due, Weave.put, Weave.getElem?_set hp, hp, Option.bind_some]
      · simp only [due, Weave.put, List.getElem?_set_ne (Ne.symm hq)]
    rw [hwork]
    refine .right _ ?_
    have hpos : 0 < c.live :=
      List.countP_pos_iff.mpr ⟨strand, List.mem_of_getElem? hp, by simp [hlive]⟩
    simp only [live, Weave.put, List.countP_set hlt, hget, hlive] at hpos ⊢
    simp only [Bool.not_false, Bool.not_true, ↓reduceIte, Bool.false_eq_true]
    omega

theorem move_wellFounded : WellFounded fun c' c : Crew α => Move names permits c c' :=
  Subrelation.wf (fun h => Move.less h) (InvImage.wf (fun c : Crew α => (c.work, c.live))
    (WellFounded.prod_lex
      (WellFounded.cutExpand (Prod.lex ⟨_, Routine.after_wellFounded⟩ ⟨_, Nat.lt_wfRel.wf⟩).wf)
      Nat.lt_wfRel.wf))

theorem moves_end (f : Nat → Crew α) : ∃ n, ¬ Move names permits (f n) (f (n + 1)) := by
  have hwf : IsWellFounded (Crew α) fun c' c => Move names permits c c' := ⟨move_wellFounded⟩
  exact WellFounded.not_rel_apply_succ (r := fun c' c => Move names permits c c') f

theorem Manned.move (h : c.Manned names) (hmove : Move names permits c c') : c'.Manned names := by
  cases hmove with
  | step hstep => exact h.step hstep
  | @cancel p strand hp _ =>
    refine ⟨h.upheld.move (.cancel hp), h.length.trans List.length_set.symm, fun other ho => ?_,
      h.claims, fun q order stage hq hlate => ?_, h.nodup, h.joined⟩
    · obtain ho | rfl := List.mem_or_eq_of_mem_set ho
      · exact h.left other ho
      · exact h.left strand (List.mem_of_getElem? hp)
    · obtain ⟨other, a, ho, hl⟩ := h.done q order stage hq hlate
      by_cases hqp : q = p
      · subst hqp
        obtain rfl : strand = other := Option.some.inj (hp.symm.trans ho)
        exact ⟨_, a, Weave.getElem?_set hp _, hl⟩
      · exact ⟨other, a, (List.getElem?_set_ne (Ne.symm hqp)).trans ho, hl⟩

def Within (permits : Nat → Nat) (c : Crew α) : Prop := ∀ order, c.taken order ≤ permits order

theorem Within.set (h : c.Within permits) {p : Nat} {task task' : Nat × Stage}
    (hp : c.tasks[p]? = some task)
    (hfree : ∀ order, task' = (order, .working) → c.taken order < permits order) :
    ∀ order, (c.tasks.set p task').count (order, .working) ≤ permits order := by
  intro order
  have htaken := h order
  unfold taken at htaken hfree
  rw [List.count_set (List.getElem?_eq_some_iff.mp hp).1]
  by_cases he : task' = (order, .working)
  · have := hfree order he
    simp only [he, beq_self_eq_true, ↓reduceIte]
    omega
  · simp only [beq_eq_false_iff_ne.mpr he, Bool.false_eq_true, ↓reduceIte]
    omega

theorem Within.move (h : c.Within permits) (hmove : Move names permits c c') :
    c'.Within permits := by
  cases hmove with
  | cancel => exact h
  | step hstep =>
    cases hstep with
    | work => exact h
    | enter hp hfree =>
      exact h.set hp fun order he => by
        obtain ⟨rfl, -⟩ := Prod.mk.inj he
        exact hfree
    | leave hp => exact h.set hp fun order he => by cases he
    | join hp => exact h.set hp fun order he => by cases he

theorem map_fst_set {tasks : List (Nat × Stage)} {p order : Nat} {stage : Stage}
    (hp : tasks[p]? = some (order, stage)) (stage' : Stage) :
    (tasks.set p (order, stage')).map Prod.fst = tasks.map Prod.fst := by
  refine List.ext_getElem? fun q => ?_
  rw [List.getElem?_map, List.getElem?_map, getElem?_tasks hp]
  split
  · rename_i he
    rw [he, hp]
    rfl
  · rfl

theorem map_fst_move (hmove : Move names permits c c') :
    c'.tasks.map Prod.fst = c.tasks.map Prod.fst := by
  cases hmove with
  | cancel => rfl
  | step hstep =>
    cases hstep with
    | work => rfl
    | enter hp | leave hp | join hp => exact map_fst_set hp _

theorem manned_of_moves (hmanned : c.Manned names) (hwithin : c.Within permits)
    (hmoves : Relation.ReflTransGen (Move names permits) c c') :
    c'.Manned names ∧ c'.Within permits ∧ c'.tasks.map Prod.fst = c.tasks.map Prod.fst := by
  induction hmoves with
  | refl => exact ⟨hmanned, hwithin, rfl⟩
  | tail _ hmove ih =>
    obtain ⟨hmanned, hwithin, hruns⟩ := ih
    exact ⟨hmanned.move hmove, hwithin.move hmove, (map_fst_move hmove).trans hruns⟩

def Over (c : Crew α) (run : Nat) : Prop := ∀ task ∈ c.tasks, task.1 = run → task.2 = .joined

def isOf (c : Crew α) (run p : Nat) : Bool := (c.tasks[p]?).any (·.1 = run)

theorem Manned.joined_perm_of_over (h : c.Manned names) {run : Nat} (hover : c.Over run) :
    (c.joined.filter (c.isOf run)).Perm ((List.range c.tasks.length).filter (c.isOf run)) := by
  refine (List.perm_ext_iff_of_nodup (h.nodup.filter _) (List.nodup_range.filter _)).mpr
    fun p => ?_
  rw [List.mem_filter, List.mem_filter, h.joined p, List.mem_range]
  refine and_congr_left fun hof => ⟨fun ⟨order, hp⟩ => (List.getElem?_eq_some_iff.mp hp).1,
    fun hlt => ?_⟩
  obtain ⟨task, hp, hrun⟩ := (Option.any_eq_true _ _).mp hof
  have hjoined := hover task (List.mem_of_getElem? hp) (by simpa using hrun)
  exact ⟨task.1, hp.trans (congrArg some (Prod.ext rfl hjoined))⟩

theorem Manned.comes_to_done (h : c.Manned names) (hpermits : ∀ order, 0 < permits order) :
    ∃ c', Relation.ReflTransGen (Move names permits) c c' ∧ c'.Done := by
  -- The induction is on what is left to do.
  induction c using step_wellFounded.induction (r := fun c' c => Step names permits c c') with
  | _ c ih =>
    by_cases hstuck : ∀ c', ¬ Step names permits c c'
    · exact ⟨c, .refl, h.done_of_stuck hpermits hstuck⟩
    · obtain ⟨c₁, hstep⟩ := not_forall_not.mp hstuck
      obtain ⟨c', hmoves, hdone⟩ := ih c₁ hstep (h.step hstep)
      exact ⟨c', .head (.step hstep) hmoves, hdone⟩

end Crew

def Strand.failure? (strand : Strand (Except ReconcileError Unit)) (displayName : String) :
    Option IdentityFailure :=
  match strand.left with
  | some (.done (.error e)) => some ⟨displayName, e.message⟩
  | _ => none

/-- The report is about each identity once, in the order of the request: it has the changes that the
attempt at it put on record, and one error if the attempt failed. -/
structure Summary.Accounts (summary : Summary) (identities : List WorkloadIdentity)
    (attempts : List (WorkloadIdentity × Strand (Except ReconcileError Unit))) : Prop where
  identities : attempts.map (·.1) = identities
  ended : ∀ x ∈ attempts, ∃ result, x.2.left = some (.done result)
  changes : summary.changes = attempts.flatMap (·.2.changes)
  errors : summary.errors = attempts.filterMap fun x => x.2.failure? x.1.displayName

structure Post where
  run : Nat
  place : Nat
  order : Order
  identity : WorkloadIdentity

def Order.posts (o : Order) (run : Nat) : List Post :=
  o.identities.zipIdx.map fun (identity, place) => ⟨run, place, o, identity⟩

theorem Order.place_posts (o : Order) (run : Nat) :
    (o.posts run).map (·.place) = List.range' 0 o.identities.length := by
  rw [posts, List.map_map, ← List.zipIdx_map_snd 0 o.identities]
  rfl

theorem Order.identity_posts (o : Order) (run : Nat) :
    (o.posts run).map (·.identity) = o.identities := by
  rw [posts, List.map_map]
  exact List.zipIdx_map_fst 0 o.identities

namespace Muster

def posts (orders : List Order) : List Post := orders.zipIdx.flatMap fun (o, run) => o.posts run

def permits (orders : List Order) (run : Nat) : Nat := (orders[run]?).elim 1 Order.permits

def crew (orders : List Order) (locks : LockTable Nat) (s : Store) :
    Crew (Except ReconcileError Unit) :=
  .start ((posts orders).map fun post => (post.run, (post.order.attempt post.identity).run)) locks s

def roll (orders : List Order) (run : Nat) (c : Crew (Except ReconcileError Unit)) :
    List (Post × Strand (Except ReconcileError Unit)) :=
  ((posts orders).zip c.weave.strands).filter (·.1.run = run)

def outcome? (task : Post × Strand (Except ReconcileError Unit)) : Option (Nat × IdentityOutcome) :=
  (task.2.outcome? task.1.identity.displayName).map (task.1.place, ·)

def arrival? (orders : List Order) (run : Nat) (c : Crew (Except ReconcileError Unit)) (p : Nat) :
    Option (Nat × IdentityOutcome) :=
  (((posts orders).zip c.weave.strands)[p]?).bind fun task =>
    if task.1.run = run then outcome? task else none

def arrivals (orders : List Order) (run : Nat) (c : Crew (Except ReconcileError Unit)) :
    List (Nat × IdentityOutcome) :=
  c.joined.filterMap (arrival? orders run c)

def attempts (orders : List Order) (run : Nat) (c : Crew (Except ReconcileError Unit)) :
    List (WorkloadIdentity × Strand (Except ReconcileError Unit)) :=
  (roll orders run c).map fun task => (task.1.identity, task.2)

/-- The report of a run: what came in is put in the order of the request. -/
def summary (orders : List Order) (run : Nat) (token : Bool)
    (c : Crew (Except ReconcileError Unit)) : Summary :=
  .ofOutcomes token ((sortedBy Prod.fst (arrivals orders run c)).map Prod.snd)

variable {names : Naming} {orders : List Order} {c : Crew (Except ReconcileError Unit)}

theorem filter_posts (orders : List Order) (run : Nat) :
    (posts orders).filter (·.run = run) = (orders[run]?).elim [] (·.posts run) := by
  have hposts : ∀ (o : Order) (k : Nat),
      (o.posts k).filter (·.run = run) = if k = run then o.posts k else [] := by
    intro o k
    simp only [Order.posts, List.filter_map, Function.comp_def]
    by_cases hk : k = run
    · simp [hk]
    · simp [hk]
  -- The runs are numbered from `n` on.
  suffices ∀ n, (((orders.zipIdx n).flatMap fun (o, k) => o.posts k).filter (·.run = run)) =
      if n ≤ run then (orders[run - n]?).elim [] (·.posts run) else [] by
    simpa [posts] using this 0
  induction orders with
  | nil => simp
  | cons o rest ih =>
    intro n
    rw [List.zipIdx_cons, List.flatMap_cons, List.filter_append, hposts, ih]
    by_cases hn : n = run
    · subst hn
      simp
    · rw [if_neg hn, List.nil_append]
      by_cases hlt : n < run
      · obtain ⟨k, rfl⟩ : ∃ k, run = n + 1 + k := ⟨run - (n + 1), by omega⟩
        rw [if_pos (by omega), if_pos (by omega), show n + 1 + k - n = k + 1 by omega,
          Nat.add_sub_cancel_left, List.getElem?_cons_succ]
      · rw [if_neg (by omega), if_neg (by omega)]

theorem map_roll (hlength : c.weave.strands.length = (posts orders).length) (run : Nat) :
    (roll orders run c).map (·.1) = (orders[run]?).elim [] (·.posts run) := by
  have hzip : ((posts orders).zip c.weave.strands).map Prod.fst = posts orders :=
    List.map_fst_zip hlength.ge
  rw [← filter_posts, ← hzip, List.filter_map]
  rfl

theorem length_strands (hmanned : c.Manned names)
    (hruns : c.tasks.map Prod.fst = (posts orders).map (·.run)) :
    c.weave.strands.length = (posts orders).length := by
  simpa [hmanned.length] using congrArg List.length hruns

theorem task_of_zip (hruns : c.tasks.map Prod.fst = (posts orders).map (·.run)) {p : Nat}
    {task : Post × Strand (Except ReconcileError Unit)}
    (hp : ((posts orders).zip c.weave.strands)[p]? = some task) :
    ∃ stage, c.tasks[p]? = some (task.1.run, stage) ∧ c.weave.strands[p]? = some task.2 := by
  obtain ⟨hpost, hstrand⟩ := List.getElem?_zip_eq_some.mp hp
  have hrun := congrArg (·[p]?) hruns
  simp only [List.getElem?_map, hpost, Option.map_some] at hrun
  obtain ⟨⟨run, stage⟩, htask, rfl⟩ := Option.map_eq_some_iff.mp hrun
  exact ⟨stage, htask, hstrand⟩

theorem filterMap_arrival (hruns : c.tasks.map Prod.fst = (posts orders).map (·.run)) (run : Nat)
    (l : List Nat) :
    (l.filter (c.isOf run)).filterMap (arrival? orders run c) =
      l.filterMap (arrival? orders run c) := by
  rw [List.filterMap_filter]
  refine List.filterMap_congr fun p _ => ?_
  cases hp : ((posts orders).zip c.weave.strands)[p]? with
  | none => simp [arrival?, hp]
  | some task =>
    obtain ⟨stage, htask, -⟩ := task_of_zip hruns hp
    by_cases hrun : task.1.run = run
    · simp [Crew.isOf, htask, hrun]
    · simp [arrival?, hp, hrun]

theorem filterMap_range_arrival (hlength : c.weave.strands.length = (posts orders).length)
    (run : Nat) :
    (List.range c.weave.strands.length).filterMap (arrival? orders run c) =
      (roll orders run c).filterMap outcome? := by
  have hrange : (List.range c.weave.strands.length).filterMap
      (((posts orders).zip c.weave.strands)[·]?) = (posts orders).zip c.weave.strands := by
    have h := Order.filterMap_range (l := (posts orders).zip c.weave.strands) (g := id)
      fun p a hp => hp
    rwa [List.length_zip, ← hlength, Nat.min_self, List.map_id] at h
  unfold arrival?
  rw [← List.filterMap_filterMap, hrange, roll, List.filterMap_filter]
  simp

/-- Once a run is over, what has come in is what came of its tasks, in some order. -/
theorem arrivals_perm (hmanned : c.Manned names)
    (hruns : c.tasks.map Prod.fst = (posts orders).map (·.run)) {run : Nat} (hover : c.Over run) :
    (arrivals orders run c).Perm ((roll orders run c).filterMap outcome?) := by
  have hlength := length_strands hmanned hruns
  have hperm := (hmanned.joined_perm_of_over hover).filterMap (arrival? orders run c)
  rw [filterMap_arrival hruns, filterMap_arrival hruns, hmanned.length,
    filterMap_range_arrival hlength] at hperm
  exact hperm

theorem outcomes_of_done {tasks : List (Post × Strand (Except ReconcileError Unit))}
    (hdone : ∀ task ∈ tasks, ∃ result, task.2.left = some (.done result)) :
    let outcomes := tasks.filterMap outcome?
    outcomes.map Prod.fst = tasks.map (·.1.place) ∧
    (outcomes.map Prod.snd).flatMap (·.changes) = tasks.flatMap (·.2.changes) ∧
    (outcomes.map Prod.snd).filterMap (·.failure?) =
      tasks.filterMap fun task => task.2.failure? task.1.identity.displayName := by
  induction tasks with
  | nil => exact ⟨rfl, rfl, rfl⟩
  | cons task rest ih =>
    obtain ⟨result, hl⟩ := hdone task List.mem_cons_self
    obtain ⟨hplaces, hchanges, hfailures⟩ := ih fun other ho => hdone other (.tail _ ho)
    have houtcome : outcome? task =
        some (task.1.place, ⟨task.1.identity.displayName, task.2.changes, result⟩) := by
      simp [outcome?, Strand.outcome?, Strand.result?_eq_some.mpr hl]
    have hfailure : task.2.failure? task.1.identity.displayName = IdentityOutcome.failure?
        ⟨task.1.identity.displayName, task.2.changes, result⟩ := by
      unfold Strand.failure? IdentityOutcome.failure?
      rw [hl]
      cases result <;> rfl
    dsimp only at hplaces hchanges hfailures ⊢
    rw [List.filterMap_cons_some houtcome, List.map_cons, List.map_cons, List.map_cons,
      List.flatMap_cons, List.flatMap_cons, hplaces, hchanges]
    refine ⟨rfl, rfl, ?_⟩
    rw [List.filterMap_cons, List.filterMap_cons, hfailures, hfailure]

theorem sortedBy_of_perm {α : Type} {l l' : List (Nat × α)} (hperm : l.Perm l')
    (hplaces : (l'.map Prod.fst).Pairwise (· < ·)) : sortedBy Prod.fst l = l' := by
  have hnodup : (l'.map Prod.fst).Nodup := hplaces.imp fun h => h.ne
  have hsorted := pairwise_sortedBy Prod.fst l
  have hsorted' : l'.Pairwise fun a b => a.1 ≤ b.1 :=
    (List.pairwise_map.mp hplaces).imp Nat.le_of_lt
  have hsame : (sortedBy Prod.fst l).Perm l' := (List.mergeSort_perm l _).trans hperm
  refine List.Perm.eq_of_pairwise (fun a b ha hb hab hba => ?_) hsorted hsorted' hsame
  exact List.inj_on_of_nodup_map hnodup (hsame.mem_iff.mp ha) hb (Nat.le_antisymm hab hba)

theorem summary_accounts (hmanned : c.Manned names)
    (hruns : c.tasks.map Prod.fst = (posts orders).map (·.run)) {run : Nat} {o : Order}
    (ho : orders[run]? = some o) (hover : c.Over run) (token : Bool) :
    (summary orders run token c).Accounts o.identities (attempts orders run c) := by
  have hroll : (roll orders run c).map (·.1) = o.posts run := by
    rw [map_roll (length_strands hmanned hruns), ho]
    rfl
  have hended : ∀ task ∈ roll orders run c, ∃ result, task.2.left = some (.done result) := by
    intro task hm
    obtain ⟨hzip, hrun⟩ := List.mem_filter.mp hm
    obtain ⟨p, hp⟩ := List.getElem?_of_mem hzip
    obtain ⟨stage, htask, hstrand⟩ := task_of_zip hruns hp
    have hjoined : stage = .joined :=
      hover _ (List.mem_of_getElem? htask) (of_decide_eq_true hrun)
    obtain ⟨strand, result, hs, hl⟩ := hmanned.done p _ _ htask (.inr hjoined)
    obtain rfl := Option.some.inj (hstrand.symm.trans hs)
    exact ⟨result, hl⟩
  obtain ⟨hplaces, hchanges, hfailures⟩ := outcomes_of_done hended
  -- Sorting by places undoes the order in which the tasks were joined.
  have hsorted : sortedBy Prod.fst (arrivals orders run c) =
      (roll orders run c).filterMap outcome? := by
    refine sortedBy_of_perm (arrivals_perm hmanned hruns hover) ?_
    rw [hplaces, ← Function.comp_def, ← List.map_map, hroll, o.place_posts]
    exact List.pairwise_lt_range'
  refine ⟨?_, fun x hx => ?_, ?_, ?_⟩
  · rw [attempts, List.map_map, ← o.identity_posts run, ← hroll, List.map_map]
    rfl
  · obtain ⟨task, hm, rfl⟩ := List.mem_map.mp hx
    exact hended task hm
  · rw [summary, hsorted, attempts, List.flatMap_map]
    exact hchanges
  · rw [summary, hsorted, attempts, List.filterMap_map]
    exact hfailures

theorem crew_manned (hn : names.Distinct) {s : Store} (hs : s.Sound names) {locks : LockTable Nat}
    (hlocks : locks.Sound) (hfree : locks.claims = []) (orders : List Order) :
    (crew orders locks s).Manned names := by
  refine Crew.manned_start hlocks hfree hs fun t ht => ?_
  obtain ⟨post, -, rfl⟩ := List.mem_map.mp ht
  exact Errand.abides hn (.attend post.order post.identity) nofun

theorem permits_pos (orders : List Order) (run : Nat) : 0 < permits orders run := by
  unfold permits
  cases orders[run]? with
  | none => exact Nat.one_pos
  | some o => exact Nat.le_max_left 1 _

theorem crew_within (orders : List Order) (locks : LockTable Nat) (s : Store) :
    (crew orders locks s).Within (permits orders) := by
  intro run
  have hnone : (crew orders locks s).taken run = 0 := by
    refine List.count_eq_zero.mpr fun hm => ?_
    obtain ⟨task, -, he⟩ := List.mem_map.mp hm
    cases he
  rw [hnone]
  exact Nat.zero_le _

end Muster

/-- Runs that share a store and creation locks, whatever the order of their steps and whenever
tokens are cancelled: there is an end to them, they are not stuck before, none has more identities
at work than it may, and the report of each accounts for its identities as soon as it is over. -/
theorem shared_runs_end {names : Naming} (hn : names.Distinct) {s : Store} (hs : s.Reachable names)
    {locks : LockTable Nat} (hlocks : locks.Sound) (hfree : locks.claims = [])
    (orders : List Order) :
    let Move := Crew.Move names (Muster.permits orders)
    (∀ f : Nat → Crew (Except ReconcileError Unit), ∃ n, ¬ Move (f n) (f (n + 1))) ∧
    ∀ c, Relation.ReflTransGen Move (Muster.crew orders locks s) c →
      (¬ c.Done → ∃ c', Crew.Step names (Muster.permits orders) c c') ∧
      ∀ (run : Nat) (o : Order), orders[run]? = some o →
        c.taken run ≤ max 1 o.concurrency ∧
        (c.Over run → ∀ token, (Muster.summary orders run token c).Accounts o.identities
          (Muster.attempts orders run c)) := by
  refine ⟨Crew.moves_end, fun c hmoves => ?_⟩
  obtain ⟨hmanned, hwithin, hruns⟩ := Crew.manned_of_moves
    (Muster.crew_manned hn hs.sound hlocks hfree orders) (Muster.crew_within orders locks s) hmoves
  have hruns : c.tasks.map Prod.fst = (Muster.posts orders).map (·.run) :=
    hruns.trans (by simp [Muster.crew, Crew.start, Function.comp_def])
  refine ⟨fun hnot => ?_, fun run o ho => ⟨?_, fun hover => ?_⟩⟩
  · by_contra hstuck
    exact hnot (hmanned.done_of_stuck (Muster.permits_pos orders) (not_exists.mp hstuck))
  · have htaken := hwithin run
    rwa [Muster.permits, ho] at htaken
  · exact Muster.summary_accounts hmanned hruns ho hover

namespace Muster

def payments : WorkloadIdentity :=
  ⟨"payments", ["tether"], [.basic "gh-main" "https://oidc.example" "repo:acme/payments"]⟩

/-- An identity is asked for twice by one run and torn down by another. -/
def contested : List Order :=
  [⟨[payments, payments], .provision, false, 0⟩, ⟨[payments], .teardown, false, 2⟩]

end Muster

theorem shared_runs_end_contested :
    Naming.counted.Distinct ∧ Store.empty.Reachable .counted ∧
    (LockTable.empty : LockTable Nat).Sound ∧
    let orders := Muster.contested
    ∃ c, Relation.ReflTransGen (Crew.Move .counted (Muster.permits orders))
        (Muster.crew orders .empty .empty) c ∧ c.Done ∧
      (Muster.summary orders 0 false c).Accounts [Muster.payments, Muster.payments]
        (Muster.attempts orders 0 c) ∧
      (Muster.summary orders 1 false c).Accounts [Muster.payments]
        (Muster.attempts orders 1 c) := by
  obtain ⟨c, hmoves, hdone⟩ := (Muster.crew_manned Naming.counted_distinct
    (Store.Reachable.empty.sound) LockTable.sound_empty rfl Muster.contested).comes_to_done
      (Muster.permits_pos Muster.contested)
  obtain ⟨-, hreached⟩ := shared_runs_end Naming.counted_distinct .empty LockTable.sound_empty rfl
    Muster.contested
  obtain ⟨-, hruns⟩ := hreached c hmoves
  have hover : ∀ run, c.Over run := fun run task hm _ => hdone task hm
  exact ⟨Naming.counted_distinct, .empty, LockTable.sound_empty, c, hmoves, hdone,
    (hruns 0 _ rfl).2 (hover 0) false, (hruns 1 _ rfl).2 (hover 1) false⟩

end Federation
