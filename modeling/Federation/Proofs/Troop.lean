import Federation.Proofs.Muster
import Federation.Proofs.Replay

namespace Federation

structure Job where
  identity : WorkloadIdentity
  left : Routine (Except ReconcileError Unit)
  changes : List Change
  stage : Stage

namespace Job

/-- How the task at a place goes on by one step under the creation locks, with the call that it
makes by the step, if any, and the answer. -/
inductive Move (p : Nat) : Job → LockTable Nat → List Reply → Job → LockTable Nat → Prop
  | call {t : Job} {locks : LockTable Nat} {c : Call}
      {next : c.Outcome → Routine (Except ReconcileError Unit)} (hl : t.left = .call c next)
      (r : c.Outcome) : Move p t locks [⟨c, r⟩] { t with left := next r } locks
  | ask {t : Job} {locks : LockTable Nat} {key : String}
      {next : Routine (Except ReconcileError Unit)} (hl : t.left = .acquire key next)
      (hk : locks.knows p = false) : Move p t locks [] t (locks.ask p key)
  | take {t : Job} {locks : LockTable Nat} (hh : locks.holds p = false)
      (hcan : locks.CanTake p) : Move p t locks [] t (locks.take p)
  | enter {t : Job} {locks : LockTable Nat} {key : String}
      {next : Routine (Except ReconcileError Unit)} (hl : t.left = .acquire key next)
      (hh : locks.holds p = true) : Move p t locks [] { t with left := next } locks
  | leave {t : Job} {locks : LockTable Nat} {key : String}
      {next : Routine (Except ReconcileError Unit)} (hl : t.left = .release key next) :
      Move p t locks [] { t with left := next } (locks.drop p)
  | note {t : Job} {locks : LockTable Nat} {change : Change}
      {next : Routine (Except ReconcileError Unit)} (hl : t.left = .record change next) :
      Move p t locks [] { t with left := next, changes := t.changes ++ [change] } locks

variable {p : Nat} {t t' : Job} {locks locks' : LockTable Nat} {replies : List Reply}

theorem Move.same (h : Move p t locks replies t' locks') :
    t'.identity = t.identity ∧ t'.stage = t.stage := by
  cases h <;> exact ⟨rfl, rfl⟩

theorem Move.leads (h : Move p t locks replies t' locks') :
    ∃ more, t.left.Leads replies t'.left more ∧ t'.changes = t.changes ++ more := by
  cases h with
  | call hl r =>
    refine ⟨[], ?_, (List.append_nil _).symm⟩
    rw [hl]
    exact .call (.here _)
  | ask | take => exact ⟨[], .here _, (List.append_nil _).symm⟩
  | enter hl _ =>
    refine ⟨[], ?_, (List.append_nil _).symm⟩
    rw [hl]
    exact .acquire (.here _)
  | leave hl =>
    refine ⟨[], ?_, (List.append_nil _).symm⟩
    rw [hl]
    exact .release (.here _)
  | note hl =>
    refine ⟨_, ?_, rfl⟩
    rw [hl]
    exact .record (.here _)

theorem Move.sound (h : Move p t locks replies t' locks') (hs : locks.Sound) : locks'.Sound := by
  cases h with
  | ask _ hk => exact hs.ask hk _
  | take _ hcan => exact hs.take hcan
  | leave => exact hs.drop p
  | call | enter | note => exact hs

theorem Move.others (h : Move p t locks replies t' locks') {c : Claim Nat} (hc : c.task ≠ p) :
    c ∈ locks'.claims ↔ c ∈ locks.claims := by
  cases h with
  | ask => exact LockTable.mem_ask_other hc
  | take => exact LockTable.mem_take_other hc
  | leave => exact LockTable.mem_drop.trans (and_iff_left hc)
  | call | enter | note => exact Iff.rfl

theorem Move.less (h : Move p t locks replies t' locks') :
    Routine.After (some t'.left) (some t.left) ∨
      t'.left = t.left ∧ locks'.toll p < locks.toll p := by
  cases h with
  | call hl r => exact .inl (hl ▸ .call r)
  | enter hl _ => exact .inl (hl ▸ .acquire)
  | leave hl => exact .inl (hl ▸ .release)
  | note hl => exact .inl (hl ▸ .record)
  | ask _ hk =>
    have hh : locks.holds p = false := by
      refine Bool.eq_false_iff.mpr fun hh => ?_
      obtain ⟨c, hc, htask, -⟩ := LockTable.holds_iff.mp hh
      exact Bool.eq_false_iff.mp hk (LockTable.knows_iff.mpr ⟨c, hc, htask⟩)
    exact .inr ⟨rfl, LockTable.toll_ask hh hk _⟩
  | take hh hcan =>
    obtain ⟨c, hc, htask, -⟩ := hcan
    exact .inr ⟨rfl, LockTable.toll_take hh (LockTable.knows_iff.mpr ⟨c, hc, htask⟩)⟩

/-- The task has no more than the one lock that it has to give back. Outside it has a claim only
when it is about to acquire a lock. -/
def Orderly (t : Job) (p : Nat) (locks : LockTable Nat) : Prop :=
  ∃ inside, t.left.Bracketed inside ∧
    (inside = false → ∀ c ∈ locks.claims, c.task = p → ∃ key next, t.left = .acquire key next)

theorem Orderly.congr (h : t.Orderly p locks)
    (hclaims : ∀ c ∈ locks'.claims, c.task = p → c ∈ locks.claims) : t.Orderly p locks' := by
  obtain ⟨inside, hbracketed, houtside⟩ := h
  exact ⟨inside, hbracketed, fun hinside c hc htask =>
    houtside hinside c (hclaims c hc htask) htask⟩

theorem Move.orderly (h : Move p t locks replies t' locks') (ho : t.Orderly p locks) :
    t'.Orderly p locks' := by
  obtain ⟨inside, hbracketed, houtside⟩ := ho
  cases h with
  | ask hl _ => exact ⟨inside, hbracketed, fun _ _ _ _ => ⟨_, _, hl⟩⟩
  | take _ _ =>
    refine ⟨inside, hbracketed, fun hinside c hc htask => ?_⟩
    obtain ⟨c₀, hc₀, htask₀, -⟩ := LockTable.mem_take hc
    exact houtside hinside c₀ hc₀ (htask₀.symm.trans htask)
  | enter hl _ =>
    rw [hl] at hbracketed
    exact ⟨true, hbracketed.2, nofun⟩
  | leave hl =>
    rw [hl] at hbracketed
    exact ⟨false, hbracketed.2, fun _ c hc htask => absurd htask (LockTable.mem_drop.mp hc).2⟩
  | call hl r =>
    rw [hl] at hbracketed
    refine ⟨inside, hbracketed r, fun hinside c hc htask => ?_⟩
    obtain ⟨key, next, hacquire⟩ := houtside hinside c hc htask
    cases hl.symm.trans hacquire
  | note hl =>
    rw [hl] at hbracketed
    refine ⟨inside, hbracketed, fun hinside c hc htask => ?_⟩
    obtain ⟨key, next, hacquire⟩ := houtside hinside c hc htask
    cases hl.symm.trans hacquire

theorem Orderly.done {result : Except ReconcileError Unit} (h : t.Orderly p locks)
    (hl : t.left = .done result) : ∀ c ∈ locks.claims, c.task ≠ p := by
  obtain ⟨inside, hbracketed, houtside⟩ := h
  rw [hl] at hbracketed
  intro c hc htask
  obtain ⟨key, next, hacquire⟩ := houtside hbracketed c hc htask
  cases hl.symm.trans hacquire

end Job

/-- The tasks of a run under the creation locks, the calls that were made with the places of their
tasks, and what came of the tasks that were joined, in the order in which they were. -/
structure Troop where
  tasks : List Job
  locks : LockTable Nat
  log : List (Nat × Reply)
  arrivals : List (Nat × IdentityOutcome)

def Order.job (o : Order) (i : WorkloadIdentity) : Job := ⟨i, (o.attempt i).run, [], .waiting⟩

namespace Troop

def start (o : Order) (locks : LockTable Nat) : Troop := ⟨o.identities.map o.job, locks, [], []⟩

theorem job_of_start {o : Order} {locks : LockTable Nat} {p : Nat} {task : Job}
    (hp : (start o locks).tasks[p]? = some task) : ∃ i, o.job i = task := by
  obtain ⟨i, -, hi⟩ := List.mem_map.mp (List.mem_of_getElem? hp)
  exact ⟨i, hi⟩

def working (t : Troop) : Nat := t.tasks.countP (·.stage = .working)

def put (t : Troop) (p : Nat) (task : Job) : Troop := { t with tasks := t.tasks.set p task }

def went (t : Troop) (p : Nat) (task : Job) (locks : LockTable Nat) (replies : List Reply) :
    Troop :=
  ⟨t.tasks.set p task, locks, t.log ++ replies.map fun r => (p, r), t.arrivals⟩

inductive Step (permits : Nat) : Troop → Troop → Prop
  | enter {t : Troop} {p : Nat} {task : Job} (hp : t.tasks[p]? = some task)
      (hs : task.stage = .waiting) (hfree : t.working < permits) :
      Step permits t (t.put p { task with stage := .working })
  | work {t : Troop} {p : Nat} {task task' : Job} {replies : List Reply} {locks : LockTable Nat}
      (hp : t.tasks[p]? = some task) (hs : task.stage = .working)
      (h : task.Move p t.locks replies task' locks) : Step permits t (t.went p task' locks replies)
  | leave {t : Troop} {p : Nat} {task : Job} {result : Except ReconcileError Unit}
      (hp : t.tasks[p]? = some task) (hs : task.stage = .working)
      (hl : task.left = .done result) : Step permits t (t.put p { task with stage := .leaving })
  | join {t : Troop} {p : Nat} {task : Job} {result : Except ReconcileError Unit}
      (hp : t.tasks[p]? = some task) (hs : task.stage = .leaving)
      (hl : task.left = .done result) :
      Step permits t { t.put p { task with stage := .joined } with
        arrivals := t.arrivals ++ [(p, ⟨task.identity.displayName, task.changes, result⟩)] }

def Done (t : Troop) : Prop := ∀ task ∈ t.tasks, task.stage = .joined

/-- The report: what was handed in is put in the order of the request. -/
def summary (t : Troop) (token : Bool) : Summary :=
  .ofOutcomes token ((sortedBy Prod.fst t.arrivals).map Prod.snd)

variable {permits : Nat} {t t' : Troop} {p : Nat} {task : Job}

def due (t : Troop) (p : Nat) : Option (Routine (Except ReconcileError Unit)) × Nat :=
  ((t.tasks[p]?).map (·.left), t.locks.toll p + (t.tasks[p]?).elim 0 (·.stage.toll))

def work (t : Troop) : Multiset (Option (Routine (Except ReconcileError Unit)) × Nat) :=
  (Multiset.range t.tasks.length).map t.due

theorem work_less_of_stage {stage : Stage} (hp : t.tasks[p]? = some task)
    (hless : stage.toll < task.stage.toll) (arrivals : List (Nat × IdentityOutcome)) :
    Relation.CutExpand (Prod.Lex Routine.After (· < ·))
      (work { t.put p { task with stage := stage } with arrivals := arrivals }) t.work := by
  have hlt := (List.getElem?_eq_some_iff.mp hp).1
  rw [work, work, put, List.length_set]
  refine Crew.cutExpand_map_range hlt ?_ fun q hq => ?_
  · simp only [due, List.getElem?_set_self hlt, hp, Option.map_some]
    exact .right _ (Nat.add_lt_add_left hless _)
  · simp only [due, List.getElem?_set_ne (Ne.symm hq)]

theorem Step.less (h : Step permits t t') :
    Relation.CutExpand (Prod.Lex Routine.After (· < ·)) t'.work t.work := by
  cases h with
  | enter hp hs _ | leave hp hs _ | join hp hs _ =>
    exact work_less_of_stage hp (by rw [hs]; decide) _
  | @work p task task' replies locks hp hs hmove =>
    have hlt := (List.getElem?_eq_some_iff.mp hp).1
    rw [Troop.work, Troop.work, went, List.length_set]
    refine Crew.cutExpand_map_range hlt ?_ fun q hq => ?_
    · simp only [due, List.getElem?_set_self hlt, hp, Option.map_some, Option.elim_some,
        hmove.same.2]
      obtain hafter | ⟨hsame, htoll⟩ := hmove.less
      · exact .left _ _ hafter
      · rw [hsame]
        exact .right _ (Nat.add_lt_add_right htoll _)
    · simp only [due, List.getElem?_set_ne (Ne.symm hq)]
      rw [LockTable.toll_congr fun c hc => hmove.others (hc ▸ hq)]

theorem step_wellFounded : WellFounded fun t' t : Troop => Step permits t t' :=
  Subrelation.wf (fun h => Step.less h) (InvImage.wf work
    (WellFounded.cutExpand (Prod.lex ⟨_, Routine.after_wellFounded⟩ ⟨_, Nat.lt_wfRel.wf⟩).wf))

structure Tidy (t : Troop) : Prop where
  locks : t.locks.Sound
  claims : ∀ c ∈ t.locks.claims, ∃ task, t.tasks[c.task]? = some task ∧ task.stage = .working
  orderly : ∀ (p : Nat) (task : Job), t.tasks[p]? = some task → task.Orderly p t.locks
  done : ∀ (p : Nat) (task : Job), t.tasks[p]? = some task →
    task.stage = .leaving ∨ task.stage = .joined → ∃ result, task.left = .done result

theorem Tidy.stage (h : t.Tidy) (hp : t.tasks[p]? = some task) {stage : Stage}
    (hstage : stage = .working ∨ ∃ result, task.left = .done result)
    (arrivals : List (Nat × IdentityOutcome)) :
    Tidy { t.put p { task with stage := stage } with arrivals := arrivals } := by
  refine ⟨h.locks, fun c hc => ?_, fun q other hq => ?_, fun q other hq hlate => ?_⟩
  · obtain ⟨other, hother, hworking⟩ := h.claims c hc
    dsimp only [put]
    rw [Crew.getElem?_tasks hp]
    split
    · rename_i he
      refine ⟨_, rfl, hstage.resolve_right fun ⟨result, hl⟩ => ?_⟩
      exact (h.orderly p task hp).done hl c hc he
    · exact ⟨other, hother, hworking⟩
  · dsimp only [put] at hq
    rw [Crew.getElem?_tasks hp] at hq
    split at hq
    · rename_i he
      cases hq
      exact he ▸ h.orderly p task hp
    · exact h.orderly q other hq
  · dsimp only [put] at hq
    rw [Crew.getElem?_tasks hp] at hq
    split at hq
    · cases hq
      refine hstage.resolve_left ?_
      rintro rfl
      simp at hlate
    · exact h.done q other hq hlate

theorem Tidy.work (h : t.Tidy) (hp : t.tasks[p]? = some task) (hs : task.stage = .working)
    {task' : Job} {replies : List Reply} {locks : LockTable Nat}
    (hmove : task.Move p t.locks replies task' locks) : (t.went p task' locks replies).Tidy := by
  have hstage : task'.stage = .working := hmove.same.2.trans hs
  refine ⟨hmove.sound h.locks, fun c hc => ?_, fun q other hq => ?_, fun q other hq hlate => ?_⟩
  · dsimp only [went]
    rw [Crew.getElem?_tasks hp]
    split
    · exact ⟨_, rfl, hstage⟩
    · rename_i hne
      exact h.claims c ((hmove.others hne).mp hc)
  · dsimp only [went] at hq
    rw [Crew.getElem?_tasks hp] at hq
    split at hq
    · rename_i he
      cases hq
      exact he ▸ hmove.orderly (h.orderly p task hp)
    · rename_i hne
      exact (h.orderly q other hq).congr fun c hc htask =>
        (hmove.others (htask ▸ hne)).mp hc
  · dsimp only [went] at hq
    rw [Crew.getElem?_tasks hp] at hq
    split at hq
    · cases hq
      rw [hstage] at hlate
      simp at hlate
    · exact h.done q other hq hlate

theorem Tidy.step (h : t.Tidy) (hstep : Step permits t t') : t'.Tidy := by
  cases hstep with
  | enter hp _ _ => exact h.stage hp (.inl rfl) _
  | work hp hs hmove => exact h.work hp hs hmove
  | leave hp _ hl | join hp _ hl => exact h.stage hp (.inr ⟨_, hl⟩) _

theorem Tidy.steps (h : t.Tidy) (hsteps : Relation.ReflTransGen (Step permits) t t') :
    t'.Tidy := by
  induction hsteps with
  | refl => exact h
  | tail _ hstep ih => exact ih.step hstep

end Troop

end Federation
