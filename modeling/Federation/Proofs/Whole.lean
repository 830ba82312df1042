import Federation.Proofs.Breach
import Federation.Proofs.Troop

namespace Federation

def repliesTo (p : Nat) (log : List (Nat × Reply)) : List Reply :=
  (log.filter (·.1 = p)).map Prod.snd

theorem repliesTo_append (p : Nat) (log : List (Nat × Reply)) (replies : List Reply) :
    repliesTo p (log ++ replies.map fun r => (p, r)) = repliesTo p log ++ replies := by
  simp [repliesTo, List.filter_map, Function.comp_def]

theorem repliesTo_append_other {p q : Nat} (h : q ≠ p) (log : List (Nat × Reply))
    (replies : List Reply) :
    repliesTo q (log ++ replies.map fun r => (p, r)) = repliesTo q log := by
  simp [repliesTo, List.filter_map, Function.comp_def, Ne.symm h]

namespace Troop

variable {o : Order} {permits : Nat} {t t' : Troop} {p : Nat} {task : Job}

/-- Each task has come by the answers to its calls to where it is, and what was handed in is that
of the tasks that were joined, once each. -/
structure Accounted (o : Order) (t : Troop) : Prop where
  identities : t.tasks.map (·.identity) = o.identities
  leads : ∀ (p : Nat) (task : Job), t.tasks[p]? = some task →
    (o.attempt task.identity).run.Leads (repliesTo p t.log) task.left task.changes
  nodup : (t.arrivals.map Prod.fst).Nodup
  arrived : ∀ p, p ∈ t.arrivals.map Prod.fst ↔
    ∃ task, t.tasks[p]? = some task ∧ task.stage = .joined
  outcomes : ∀ (p : Nat) (x : IdentityOutcome), (p, x) ∈ t.arrivals →
    ∃ task, t.tasks[p]? = some task ∧ task.stage = .joined ∧ task.left = .done x.result ∧
      x.displayName = task.identity.displayName ∧ x.changes = task.changes

theorem accounted_start (o : Order) (locks : LockTable Nat) : (start o locks).Accounted o := by
  refine ⟨?_, fun p task hp => ?_, List.nodup_nil, fun p => ?_, nofun⟩
  · simp [start, Order.job, Function.comp_def]
  · obtain ⟨i, rfl⟩ := job_of_start hp
    exact .here _
  · refine iff_of_false List.not_mem_nil ?_
    rintro ⟨task, hp, hs⟩
    obtain ⟨i, rfl⟩ := job_of_start hp
    cases hs

theorem went_nil (t : Troop) (p : Nat) (task : Job) (locks : LockTable Nat) :
    t.went p task locks [] = { t.put p task with locks } := by
  rw [went, List.map_nil, List.append_nil, put]

theorem went_went (t : Troop) (p : Nat) (task task' : Job) (locks locks' : LockTable Nat)
    (replies replies' : List Reply) :
    (t.went p task locks replies).went p task' locks' replies' =
      t.went p task' locks' (replies ++ replies') := by
  simp only [went, List.set_set, List.map_append, List.append_assoc]

theorem map_identity_put (hp : t.tasks[p]? = some task) {task' : Job}
    (hsame : task'.identity = task.identity) :
    (t.put p task').tasks.map (·.identity) = t.tasks.map (·.identity) := by
  refine List.ext_getElem? fun q => ?_
  rw [List.getElem?_map, List.getElem?_map, put, Crew.getElem?_tasks hp]
  split
  · rename_i he
    rw [he, hp, Option.map_some, Option.map_some, hsame]
  · rfl

theorem Accounted.went (h : t.Accounted o) (hp : t.tasks[p]? = some task)
    (hs : task.stage ≠ .joined) (task' : Job) (hs' : task'.stage ≠ .joined)
    (hsame : task'.identity = task.identity) {replies : List Reply} {more : List Change}
    (hleads : task.left.Leads replies task'.left more)
    (hchanges : task'.changes = task.changes ++ more) (locks : LockTable Nat) :
    (t.went p task' locks replies).Accounted o := by
  refine ⟨(map_identity_put hp hsame).trans h.identities, fun q other hq => ?_, h.nodup,
    fun q => ?_, fun q x hx => ?_⟩
  · dsimp only [Troop.went] at hq
    rw [Crew.getElem?_tasks hp] at hq
    split at hq
    · rename_i he
      cases hq
      subst he
      rw [Troop.went, repliesTo_append, hsame, hchanges]
      exact (h.leads q task hp).trans hleads
    · rename_i hne
      rw [Troop.went, repliesTo_append_other hne]
      exact h.leads q other hq
  · refine (h.arrived q).trans ?_
    dsimp only [Troop.went]
    rw [Crew.getElem?_tasks hp]
    split
    · rename_i he
      subst he
      simp [hp, hs, hs']
    · rfl
  · obtain ⟨other, hq, hjoined, hrest⟩ := h.outcomes q x hx
    refine ⟨other, ?_, hjoined, hrest⟩
    dsimp only [Troop.went]
    rw [Crew.getElem?_tasks hp, if_neg, hq]
    rintro rfl
    rw [hp, Option.some.injEq] at hq
    exact hs (hq ▸ hjoined)

theorem Accounted.join (h : t.Accounted o) (hp : t.tasks[p]? = some task)
    (hs : task.stage ≠ .joined) {result : Except ReconcileError Unit}
    (hl : task.left = .done result) :
    Accounted o { t.put p { task with stage := .joined } with
      arrivals := t.arrivals ++ [(p, ⟨task.identity.displayName, task.changes, result⟩)] } := by
  have hnew : p ∉ t.arrivals.map Prod.fst := by
    rw [h.arrived p, hp]
    simpa using hs
  refine ⟨(map_identity_put hp (by rfl)).trans h.identities, fun q other hq => ?_, ?_, fun q => ?_,
    fun q x hx => ?_⟩
  · dsimp only [Troop.put] at hq
    rw [Crew.getElem?_tasks hp] at hq
    split at hq
    · rename_i he
      cases hq
      exact he ▸ h.leads p task hp
    · exact h.leads q other hq
  · rw [List.map_append, List.map_singleton, ← List.concat_eq_append]
    exact h.nodup.concat hnew
  · dsimp only [Troop.put]
    rw [List.map_append, List.map_singleton, List.mem_append, List.mem_singleton, h.arrived q,
      Crew.getElem?_tasks hp]
    split
    · rename_i he
      simp [he]
    · rename_i hne
      simp [hne]
  · dsimp only [Troop.put]
    rw [Crew.getElem?_tasks hp]
    obtain hx | hx := List.mem_append.mp hx
    · obtain ⟨other, hq, hjoined, hrest⟩ := h.outcomes q x hx
      rw [if_neg, hq]
      · exact ⟨other, rfl, hjoined, hrest⟩
      · rintro rfl
        rw [hp, Option.some.injEq] at hq
        exact hs (hq ▸ hjoined)
    · obtain ⟨rfl, rfl⟩ := Prod.mk.inj (List.mem_singleton.mp hx)
      rw [if_pos rfl]
      exact ⟨_, rfl, rfl, hl, rfl, rfl⟩

theorem Accounted.step (h : t.Accounted o) (hstep : Step permits t t') : t'.Accounted o := by
  cases hstep with
  | enter hp hs _ =>
    have hwent := h.went hp (by simp [hs]) ⟨_, _, _, .working⟩ (by simp) rfl (.here _)
      (List.append_nil _).symm t.locks
    rwa [went_nil] at hwent
  | leave hp hs _ =>
    have hwent := h.went hp (by simp [hs]) ⟨_, _, _, .leaving⟩ (by simp) rfl (.here _)
      (List.append_nil _).symm t.locks
    rwa [went_nil] at hwent
  | work hp hs hmove =>
    obtain ⟨hidentity, hstage⟩ := hmove.same
    obtain ⟨more, hleads, hchanges⟩ := hmove.leads
    exact h.went hp (by simp [hs]) _ (by simp [hstage, hs]) hidentity hleads hchanges _
  | join hp hs hl => exact h.join hp (by simp [hs]) hl

theorem Accounted.steps (h : t.Accounted o)
    (hsteps : Relation.ReflTransGen (Step permits) t t') : t'.Accounted o := by
  induction hsteps with
  | refl => exact h
  | tail _ hstep ih => exact ih.step hstep

theorem Accounted.map_fst_sortedBy (h : t.Accounted o) (hdone : t.Done) :
    (sortedBy Prod.fst t.arrivals).map Prod.fst = List.range o.identities.length := by
  have hlength : t.tasks.length = o.identities.length := by
    rw [← h.identities, List.length_map]
  have hperm : (t.arrivals.map Prod.fst).Perm (List.range o.identities.length) := by
    refine (List.perm_ext_iff_of_nodup h.nodup List.nodup_range).mpr fun p => ?_
    rw [h.arrived p, List.mem_range, ← hlength]
    constructor
    · rintro ⟨task, hp, -⟩
      exact (List.getElem?_eq_some_iff.mp hp).1
    · intro hlt
      exact ⟨_, List.getElem?_eq_getElem hlt, hdone _ (List.getElem_mem hlt)⟩
  have hsorted : ((sortedBy Prod.fst t.arrivals).map Prod.fst).Pairwise (· ≤ ·) :=
    List.pairwise_map.mpr (pairwise_sortedBy Prod.fst t.arrivals)
  exact List.Perm.eq_of_pairwise (fun _ _ _ _ => Nat.le_antisymm) hsorted List.pairwise_le_range
    (((List.mergeSort_perm t.arrivals _).map _).trans hperm)

end Troop

/-- The report has for each identity, in the order of the request, what it came to by the answers
to its own calls. -/
structure Order.Reports (o : Order) (log : List (Nat × Reply)) (summary : Summary)
    (outcomes : List IdentityOutcome) : Prop where
  length : outcomes.length = o.identities.length
  each : ∀ (p : Nat) (i : WorkloadIdentity), o.identities[p]? = some i →
    ∃ x, outcomes[p]? = some x ∧ x.displayName = i.displayName ∧
      (o.attempt i).run.replay (repliesTo p log) = some (x.result, x.changes)
  changes : summary.changes = outcomes.flatMap (·.changes)
  errors : summary.errors = outcomes.filterMap (·.failure?)

theorem Troop.Accounted.reports {o : Order} {t : Troop} (h : t.Accounted o) (hdone : t.Done)
    (token : Bool) :
    o.Reports t.log (t.summary token) ((sortedBy Prod.fst t.arrivals).map Prod.snd) := by
  have hplaces := h.map_fst_sortedBy hdone
  have hlength := congrArg List.length hplaces
  rw [List.length_map, List.length_range] at hlength
  refine ⟨by rw [List.length_map, hlength], fun p i hi => ?_, rfl, rfl⟩
  have hlt := (List.getElem?_eq_some_iff.mp hi).1
  obtain ⟨⟨q, x⟩, hx⟩ : ∃ x, (sortedBy Prod.fst t.arrivals)[p]? = some x :=
    ⟨_, List.getElem?_eq_getElem (hlength ▸ hlt)⟩
  have hq := congrArg (·[p]?) hplaces
  simp only [List.getElem?_map, hx, Option.map_some, List.getElem?_range hlt,
    Option.some.injEq] at hq
  subst hq
  obtain ⟨task, hp, -, hl, hname, hchanges⟩ :=
    h.outcomes q x (List.mem_mergeSort.mp (List.mem_of_getElem? hx))
  have hidentity := congrArg (·[q]?) h.identities
  simp only [List.getElem?_map, hp, hi, Option.map_some, Option.some.injEq] at hidentity
  refine ⟨x, by rw [List.getElem?_map, hx, Option.map_some], hidentity ▸ hname, ?_⟩
  have hleads := h.leads q task hp
  rw [hidentity, hl, ← hchanges] at hleads
  exact hleads.replay

/-- Who asks for a lock that nobody has can take it, and is alone with it then. -/
theorem LockTable.taken_alone {locks : LockTable Nat} (hfree : locks.claims = []) (p : Nat)
    (key : String) :
    locks.knows p = false ∧ (locks.ask p key).holds p = false ∧ (locks.ask p key).CanTake p ∧
      ∃ slot, ((locks.ask p key).take p).claims = [⟨p, key, slot, true⟩] := by
  obtain ⟨slot, hasked⟩ := locks.claims_ask p key
  rw [hfree, List.nil_append] at hasked
  refine ⟨by simp [knows, hfree], by simp [holds, hasked], ?_, slot, by simp [take, hasked]⟩
  exact ⟨⟨p, key, slot, false⟩, by simp [hasked], rfl, by simp [held, hasked]⟩

namespace Troop

variable {o : Order} {permits : Nat} {t : Troop} {p : Nat} {task : Job} {σ : Type}

theorem step_went (hp : p < t.tasks.length) {task task' : Job} {locks locks' : LockTable Nat}
    {replies more : List Reply} (hs : task.stage = .working)
    (h : task.Move p locks more task' locks') :
    Step permits (t.went p task locks replies) (t.went p task' locks' (replies ++ more)) := by
  rw [← went_went t p task task' locks]
  exact .work (List.getElem?_set_self hp) hs h

theorem step_went_silent (hp : p < t.tasks.length) {task task' : Job}
    {locks locks' : LockTable Nat} {replies : List Reply} (hs : task.stage = .working)
    (h : task.Move p locks [] task' locks') :
    Step permits (t.went p task locks replies) (t.went p task' locks' replies) := by
  have hstep : Step permits (t.went p task locks replies) (t.went p task' locks' (replies ++ [])) :=
    step_went hp hs h
  rwa [List.append_nil] at hstep

variable (permits) in
theorem steps_run (d : Behaviour σ) (i : WorkloadIdentity) (hp : p < t.tasks.length)
    {m : Routine (Except ReconcileError Unit)} {inside : Bool} (hbracketed : m.Bracketed inside)
    {locks : LockTable Nat} (hlocks : locks.Sound) (hclaims : ∀ c ∈ locks.claims, c.task = p)
    (hfree : inside = false → locks.claims = []) (changes : List Change) (replies : List Reply)
    (s : σ) :
    ∃ locks', Relation.ReflTransGen (Step permits)
        (t.went p ⟨i, m, changes, .working⟩ locks replies)
        (t.went p ⟨i, .done (m.run d s).1, changes ++ (m.journal d s).changes, .working⟩ locks'
          (replies ++ (m.journal d s).replies)) ∧
      locks'.Sound ∧ locks'.claims = [] := by
  induction m generalizing inside locks changes replies s with
  | done a =>
    refine ⟨locks, ?_, hlocks, hfree hbracketed⟩
    simpa [Routine.journal, Routine.run, Routine.events] using Relation.ReflTransGen.refl
  | call c next ih =>
    obtain ⟨locks', hsteps, hrest⟩ := ih (d c s).1 (hbracketed _) hlocks hclaims hfree changes
      (replies ++ [⟨c, (d c s).1⟩]) (d c s).2
    refine ⟨locks', .head (step_went hp rfl (.call rfl (d c s).1)) ?_, hrest⟩
    rw [List.append_assoc] at hsteps
    exact hsteps
  | record change next ih =>
    obtain ⟨locks', hsteps, hrest⟩ := ih hbracketed hlocks hclaims hfree (changes ++ [change])
      replies s
    refine ⟨locks', .head (step_went_silent hp rfl (.note rfl)) ?_, hrest⟩
    rw [List.append_assoc] at hsteps
    exact hsteps
  | release key next ih =>
    obtain ⟨hinside, hnext⟩ := hbracketed
    have hnone : (locks.drop p).claims = [] := by
      refine List.eq_nil_iff_forall_not_mem.mpr fun c hc => ?_
      obtain ⟨hc, hne⟩ := LockTable.mem_drop.mp hc
      exact hne (hclaims c hc)
    obtain ⟨locks', hsteps, hrest⟩ := ih hnext (hlocks.drop p) (by simp [hnone])
      (fun _ => hnone) changes replies s
    exact ⟨locks', .head (step_went_silent hp rfl (.leave rfl)) hsteps, hrest⟩
  | acquire key next ih =>
    obtain ⟨rfl, hnext⟩ := hbracketed
    have hnone := hfree rfl
    obtain ⟨hknows, hwaits, hcan, slot, htaken⟩ := LockTable.taken_alone hnone p key
    have hholds : ((locks.ask p key).take p).holds p = true := by simp [LockTable.holds, htaken]
    -- It asks for the lock, takes it, which no other has, and goes in.
    obtain ⟨locks', hsteps, hrest⟩ := ih hnext ((hlocks.ask hknows key).take hcan)
      (by simp [htaken]) (by simp) changes replies s
    refine ⟨locks', .head (step_went_silent hp rfl (.ask rfl hknows)) ?_, hrest⟩
    refine .head (step_went_silent hp rfl (.take hwaits hcan)) ?_
    exact .head (step_went_silent hp rfl (.enter rfl hholds)) hsteps

theorem steps_attend (d : Behaviour σ) {i : WorkloadIdentity} (hp : t.tasks[p]? = some (o.job i))
    (hfree : t.working < permits) (hlocks : t.locks.Sound) (hclaims : t.locks.claims = [])
    (s : σ) :
    let m := (o.attempt i).run
    ∃ t', Relation.ReflTransGen (Step permits) t t' ∧
      t'.tasks = t.tasks.set p ⟨i, .done (m.run d s).1, (m.run d s).2.1, .joined⟩ ∧
      t'.locks.Sound ∧ t'.locks.claims = [] ∧
      t'.log = t.log ++ (m.journal d s).replies.map (fun r => (p, r)) ∧
      t'.arrivals = t.arrivals ++ [(p, ⟨i.displayName, (m.run d s).2.1, (m.run d s).1⟩)] := by
  intro m
  have hlt := (List.getElem?_eq_some_iff.mp hp).1
  have henter : Step permits t (t.went p ⟨i, m, [], .working⟩ t.locks []) := by
    rw [went_nil]
    exact .enter hp rfl hfree
  obtain ⟨locks, hsteps, hsound, hnone⟩ := steps_run permits d i hlt
    (o.attempt_bracketed i) hlocks (by simp [hclaims]) (fun _ => hclaims) [] [] s
  -- From here on the task only comes to its next stages.
  let task (stage : Stage) : Job := ⟨i, .done (m.run d s).1, (m.run d s).2.1, stage⟩
  let worked := t.went p (task .working) locks (m.journal d s).replies
  have hworked : worked.tasks[p]? = some (task .working) := List.getElem?_set_self hlt
  have hleave : Step permits worked (worked.put p (task .leaving)) := .leave hworked rfl rfl
  have hleft : (worked.put p (task .leaving)).tasks[p]? = some (task .leaving) :=
    List.getElem?_set_self (List.getElem?_eq_some_iff.mp hworked).1
  refine ⟨_, .tail (.tail (.head henter hsteps) hleave) (.join hleft rfl rfl), ?_, hsound, hnone,
    rfl, rfl⟩
  simp only [worked, task, put, went, List.set_set]

/-- One after another, all tasks come to be joined, each as it would be alone. -/
theorem steps_runEach (d : Behaviour σ) (hpermits : 0 < permits) (rest : List WorkloadIdentity)
    {before : List Job} (htasks : t.tasks = before ++ rest.map o.job)
    (hbefore : ∀ task ∈ before, task.stage = .joined) (hlocks : t.locks.Sound)
    (hclaims : t.locks.claims = []) (s : σ) :
    ∃ t', Relation.ReflTransGen (Step permits) t t' ∧ t'.Done ∧
      t'.log.map Prod.snd = t.log.map Prod.snd ++ (o.events d rest s).map Event.reply ∧
      t'.arrivals = t.arrivals ++ ((o.runEach d rest s).1.zipIdx before.length).map Prod.swap := by
  induction rest generalizing t before s with
  | nil =>
    rw [List.map_nil, List.append_nil] at htasks
    exact ⟨t, .refl, fun task hm => hbefore task (htasks ▸ hm), by simp [Order.events],
      by simp [Order.runEach]⟩
  | cons i rest ih =>
    have hp : t.tasks[before.length]? = some (o.job i) := by simp [htasks]
    -- All tasks were joined or have not begun, so there is a permit.
    have hidle : t.working = 0 := by
      refine List.countP_eq_zero.mpr fun task hm => ?_
      rw [htasks, List.mem_append] at hm
      obtain hm | hm := hm
      · simp [hbefore task hm]
      · obtain ⟨j, -, rfl⟩ := List.mem_map.mp hm
        simp [Order.job]
    obtain ⟨t₁, hsteps, htasks₁, hlocks₁, hclaims₁, hlog₁, harrivals₁⟩ :=
      steps_attend d hp (hidle ▸ hpermits) hlocks hclaims s
    let m := (o.attempt i).run
    let task : Job := ⟨i, .done (m.run d s).1, (m.run d s).2.1, .joined⟩
    have htasks₁ : t₁.tasks = (before ++ [task]) ++ rest.map o.job := by
      rw [htasks₁, htasks]
      simp [task, m]
    have hjoined : ∀ other ∈ before ++ [task], other.stage = .joined := by
      intro other hm
      obtain hm | hm := List.mem_append.mp hm
      · exact hbefore other hm
      · rw [List.mem_singleton.mp hm]
    obtain ⟨t₂, hmore, hdone, hlog₂, harrivals₂⟩ := ih htasks₁ hjoined hlocks₁ hclaims₁
      (m.run d s).2.2
    refine ⟨t₂, hsteps.trans hmore, hdone, ?_, ?_⟩
    · rw [hlog₂, hlog₁]
      simp [Order.events, Routine.journal, m, Function.comp_def]
    · rw [harrivals₂, harrivals₁]
      simp [Order.runEach, m]

theorem summary_of_arrivals {outcomes : List IdentityOutcome}
    (h : t.arrivals = (outcomes.zipIdx 0).map Prod.swap) (token : Bool) :
    t.summary token = .ofOutcomes token outcomes := by
  have hsorted : sortedBy Prod.fst t.arrivals = t.arrivals := by
    refine Muster.sortedBy_of_perm (.refl _) ?_
    rw [h, List.map_map]
    exact List.zipIdx_map_snd 0 outcomes ▸ List.pairwise_lt_range'
  rw [summary, hsorted, h, List.map_map]
  exact congrArg _ (List.zipIdx_map_fst 0 outcomes)

end Troop

namespace Order

variable {o : Order} {locks : LockTable Nat} {σ : Type}

/-- What a run may come to, with the calls that it made: it rejects the request, or its tasks go on
in some order, with any answers to their calls, until all of them were joined, and it reports. The
flag of the report is the state of the token then. -/
inductive ComesTo (o : Order) (locks : LockTable Nat) :
    Except ReconcileError Summary → List (Nat × Reply) → Prop
  | rejected {why : Violation} (h : o.violation? = some why) :
    ComesTo o locks (.error (.declaration why)) []
  | reported {t : Troop} (h : o.violation? = none)
    (hsteps : Relation.ReflTransGen (Troop.Step o.permits) (.start o locks) t) (hdone : t.Done)
    (token : Bool) : ComesTo o locks (.ok (t.summary token)) t.log

theorem comesTo_run (hlocks : locks.Sound) (hfree : locks.claims = []) (d : Behaviour σ)
    (isCancelled : σ → Bool) (s : σ) :
    ∃ log, o.ComesTo locks (o.run d isCancelled s).1 log ∧
      ((∃ why, (o.run d isCancelled s).1 = .error why) → (o.run d isCancelled s).2 = s) ∧
      (o.violation? = none →
        log.map Prod.snd = (o.events d o.identities s).map Event.reply) := by
  unfold run
  cases hv : o.violation? with
  | some why => exact ⟨[], .rejected hv, fun _ => rfl, nofun⟩
  | none =>
    have hpermits : 0 < o.permits := Nat.le_max_left 1 _
    have htasks : (Troop.start o locks).tasks = [] ++ o.identities.map o.job := rfl
    obtain ⟨t, hsteps, hdone, hlog, harrivals⟩ :=
      Troop.steps_runEach d hpermits o.identities htasks nofun hlocks hfree s
    refine ⟨t.log, ?_, nofun, fun _ => hlog⟩
    dsimp only
    rw [← Troop.summary_of_arrivals harrivals]
    exact .reported hv hsteps hdone _

end Order

end Federation
