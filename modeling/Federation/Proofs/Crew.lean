import Mathlib.Logic.Hydra
import Federation.Proofs.Unique

namespace Federation

/-- How far a task has come. -/
inductive Stage
  | waiting
  | working
  | leaving
  | joined
  deriving DecidableEq, Repr

def Stage.toll : Stage → Nat
  | .waiting => 3
  | .working => 2
  | .leaving => 1
  | .joined => 0

/-- Tasks woven into each other: at the place of each routine the order that it belongs to and how
far it has come. -/
structure Crew (α : Type) where
  weave : Weave α
  tasks : List (Nat × Stage)
  joined : List Nat

namespace Crew

variable {α : Type}

def start (tasks : List (Nat × Routine α)) (locks : LockTable Nat) (s : Store) : Crew α :=
  ⟨.start (tasks.map (·.2)) locks s, tasks.map fun t => (t.1, .waiting), []⟩

def taken (c : Crew α) (order : Nat) : Nat := c.tasks.count (order, .working)

inductive Step (names : Naming) (permits : Nat → Nat) : Crew α → Crew α → Prop
  | enter {c : Crew α} {p order : Nat} (hp : c.tasks[p]? = some (order, .waiting))
      (hfree : c.taken order < permits order) :
      Step names permits c { c with tasks := c.tasks.set p (order, .working) }
  | work {c : Crew α} {p order : Nat} {w : Weave α} (hp : c.tasks[p]? = some (order, .working))
      (hgo : c.weave.go names p = some w) : Step names permits c { c with weave := w }
  | leave {c : Crew α} {p order : Nat} {strand : Strand α} {a : α}
      (hp : c.tasks[p]? = some (order, .working)) (hs : c.weave.strands[p]? = some strand)
      (hl : strand.left = some (.done a)) :
      Step names permits c { c with tasks := c.tasks.set p (order, .leaving) }
  | join {c : Crew α} {p order : Nat} (hp : c.tasks[p]? = some (order, .leaving)) :
      Step names permits c
        { c with tasks := c.tasks.set p (order, .joined), joined := c.joined ++ [p] }

def Done (c : Crew α) : Prop := ∀ task ∈ c.tasks, task.2 = .joined

/-- Whatever steps are taken, there is an end to them, and then all tasks have been joined and the
condition holds. -/
inductive Ends (names : Naming) (permits : Nat → Nat) (post : Crew α → Prop) : Crew α → Prop
  | intro {c : Crew α} (hend : (∀ c', ¬ Step names permits c c') → c.Done ∧ post c)
      (hstep : ∀ c', Step names permits c c' → Ends names permits post c') :
      Ends names permits post c

theorem Ends.mono {names : Naming} {permits : Nat → Nat} {post post' : Crew α → Prop} {c : Crew α}
    (h : Ends names permits post c) (himp : ∀ c, post c → post' c) :
    Ends names permits post' c := by
  induction h with
  | intro hend _ ih => exact ⟨fun hstuck => (hend hstuck).imp_right (himp _), ih⟩

end Crew

inductive Routine.After {α : Type} : Option (Routine α) → Option (Routine α) → Prop
  | call {c : Call} {next : c.Outcome → Routine α} (r : c.Outcome) :
      After (some (next r)) (some (.call c next))
  | acquire {key : String} {next : Routine α} : After (some next) (some (.acquire key next))
  | release {key : String} {next : Routine α} : After (some next) (some (.release key next))
  | record {change : Change} {next : Routine α} : After (some next) (some (.record change next))

theorem Routine.after_wellFounded {α : Type} :
    WellFounded (After : Option (Routine α) → Option (Routine α) → Prop) := by
  refine ⟨fun left => ?_⟩
  cases left with
  | none => exact ⟨_, fun _ h => nomatch h⟩
  | some m =>
    induction m with
    | done a => exact ⟨_, fun _ h => nomatch h⟩
    | call c next ih =>
      refine ⟨_, fun _ h => ?_⟩
      cases h with
      | call r => exact ih r
    | acquire key next ih | release key next ih | record change next ih =>
      refine ⟨_, fun _ h => ?_⟩
      cases h
      exact ih

namespace LockTable

variable {t t' : LockTable Nat} {p q : Nat}

def toll (t : LockTable Nat) (p : Nat) : Nat := if t.holds p then 0 else if t.knows p then 1 else 2

theorem toll_congr (h : ∀ c, c.task = q → (c ∈ t'.claims ↔ c ∈ t.claims)) :
    t'.toll q = t.toll q := by
  have hknows : t'.knows q = t.knows q := by
    rw [Bool.eq_iff_iff, knows_iff, knows_iff]
    exact exists_congr fun c => and_congr_left (h c)
  have hholds : t'.holds q = t.holds q := by
    rw [Bool.eq_iff_iff, holds_iff, holds_iff]
    exact exists_congr fun c => ⟨fun ⟨hm, ht⟩ => ⟨(h c ht.1).mp hm, ht⟩,
      fun ⟨hm, ht⟩ => ⟨(h c ht.1).mpr hm, ht⟩⟩
  rw [toll, toll, hknows, hholds]

theorem toll_ask (hh : t.holds p = false) (hk : t.knows p = false) (key : String) :
    (t.ask p key).toll p < t.toll p := by
  have hknows : (t.ask p key).knows p = true := by
    obtain ⟨slot, hclaims⟩ := t.claims_ask p key
    exact knows_iff.mpr ⟨⟨p, key, slot, false⟩, by rw [hclaims]; simp, rfl⟩
  simp only [toll, hh, hk, hknows]
  split <;> decide

theorem toll_take (hh : t.holds p = false) (hk : t.knows p = true) :
    (t.take p).toll p < t.toll p := by
  obtain ⟨c, hc, htask⟩ := knows_iff.mp hk
  have hholds : (t.take p).holds p = true :=
    holds_iff.mpr ⟨_, List.mem_map_of_mem hc, by simp [htask]⟩
  simp [toll, hh, hk, hholds]

end LockTable

namespace Weave

variable {α : Type} {names : Naming} {w w' : Weave α} {p q : Nat}

theorem go_cases (h : w.go names p = some w') :
    ∃ strand strand' : Strand α, w.strands[p]? = some strand ∧
      w'.strands = w.strands.set p strand' ∧
      (∀ c, c.task ≠ p → (c ∈ w'.locks.claims ↔ c ∈ w.locks.claims)) ∧
      (Routine.After strand'.left strand.left ∨
        strand'.left = strand.left ∧ w'.locks.toll p < w.locks.toll p) := by
  unfold go at h
  cases hp : w.strands[p]? with
  | none =>
    rw [hp] at h
    cases h
  | some strand =>
    rw [hp] at h
    dsimp only at h
    refine ⟨strand, ?_⟩
    split at h
    · cases h
    · cases h
    -- To ask for a lock or to take its slot only brings the routine nearer to the lock.
    · rename_i key next hl
      split at h
      · cases h
        exact ⟨_, rfl, rfl, fun _ _ => Iff.rfl, .inl (hl ▸ .acquire)⟩
      · rename_i hh
        have hh : w.locks.holds p = false := by simpa using hh
        split at h
        · rename_i hk
          cases h
          exact ⟨strand, rfl, (set_self hp).symm, fun _ => LockTable.mem_ask_other,
            .inr ⟨rfl, LockTable.toll_ask hh (by simpa using hk) key⟩⟩
        · rename_i hk
          split at h
          · cases h
            exact ⟨strand, rfl, (set_self hp).symm, fun _ => LockTable.mem_take_other,
              .inr ⟨rfl, LockTable.toll_take hh (by simpa using hk)⟩⟩
          · cases h
    · rename_i hl
      cases h
      exact ⟨_, rfl, rfl, fun c hc => LockTable.mem_drop.trans (and_iff_left hc),
        .inl (hl ▸ .release)⟩
    · rename_i hl
      cases h
      exact ⟨_, rfl, rfl, fun _ _ => Iff.rfl, .inl (hl ▸ .record)⟩
    · rename_i c next hl
      split at h
      · cases h
        exact ⟨_, rfl, rfl, fun _ _ => Iff.rfl, .inl (hl ▸ .call _)⟩
      · cases h
        exact ⟨_, rfl, rfl, fun _ _ => Iff.rfl, .inl (hl ▸ .call _)⟩

theorem go_of_not_acquire {strand : Strand α} {routine : Routine α}
    (hp : w.strands[p]? = some strand) (hl : strand.left = some routine)
    (hdone : ∀ a, routine ≠ .done a) (hacquire : ∀ key next, routine ≠ .acquire key next) :
    ∃ w', w.go names p = some w' := by
  unfold go
  rw [hp]
  dsimp only
  rw [hl]
  cases routine with
  | done a => exact absurd rfl (hdone a)
  | acquire key next => exact absurd rfl (hacquire key next)
  | release key next | record change next => exact ⟨_, rfl⟩
  | call c next =>
    dsimp only
    split
    · exact ⟨_, rfl⟩
    · exact ⟨_, rfl⟩

theorem go_of_acquire {strand : Strand α} {key : String} {next : Routine α}
    (hp : w.strands[p]? = some strand) (hl : strand.left = some (.acquire key next))
    (hfree : w.locks.knows p = true → w.locks.holds p = true ∨ w.locks.CanTake p) :
    ∃ w', w.go names p = some w' := by
  unfold go
  rw [hp]
  dsimp only
  rw [hl]
  dsimp only
  cases hh : w.locks.holds p with
  | true => exact ⟨_, if_pos rfl⟩
  | false =>
    rw [if_neg Bool.false_ne_true]
    cases hk : w.locks.knows p with
    | false => exact ⟨_, if_pos rfl⟩
    | true =>
      obtain hholds | ⟨c, hc, htask, hslot⟩ := hfree hk
      · rw [hh] at hholds
        cases hholds
      · exact ⟨_, if_pos (List.any_eq_true.mpr ⟨c, hc, by simp [htask, hslot]⟩)⟩

/-- Who holds a lock can go on: it waits for no other. -/
theorem Upheld.holder_goes (h : w.Upheld names false fun _ st => st.hold = none) {c : Claim Nat}
    (hc : c ∈ w.locks.claims) (hh : c.holding = true) : ∃ w', w.go names c.task = some w' := by
  obtain ⟨strand, hp⟩ : ∃ strand, w.strands[c.task]? = some strand :=
    ⟨_, List.getElem?_eq_getElem (h.placed c hc)⟩
  cases hl : strand.left with
  | none =>
    have hstrand := h.strands _ _ hp
    unfold Strand.Upheld at hstrand
    rw [hl] at hstrand
    exact absurd rfl (hstrand c hc)
  | some routine =>
    obtain ⟨hold, habides, -, hclaimed⟩ := h.routine hp hl
    cases hold with
    | none =>
      obtain ⟨next, rfl⟩ := hclaimed c hc rfl
      exact go_of_acquire hp hl fun _ => .inl (LockTable.holds_iff.mpr ⟨c, hc, rfl, hh⟩)
    | some hold =>
      refine go_of_not_acquire hp hl ?_ ?_
      · rintro a rfl
        cases habides
      · rintro key next rfl
        cases habides.1

/-- As long as a routine is not done, it can go on itself or waits for a lock whose holder can. -/
theorem Upheld.goes (h : w.Upheld names false fun _ st => st.hold = none) {strand : Strand α}
    {routine : Routine α} (hp : w.strands[p]? = some strand) (hl : strand.left = some routine)
    (hdone : ∀ a, routine ≠ .done a) :
    ∃ q w', w.go names q = some w' ∧ (q = p ∨ ∃ c ∈ w.locks.claims, c.task = q) := by
  by_cases hacquire : ∃ key next, routine = .acquire key next
  · obtain ⟨key, next, rfl⟩ := hacquire
    by_cases hheld : ∃ c ∈ w.locks.claims, c.task = p ∧ w.locks.held c.slot = true
    · obtain ⟨c, -, -, hheld⟩ := hheld
      obtain ⟨d, hd, hslot⟩ := List.any_eq_true.mp hheld
      obtain ⟨w', hgo⟩ := h.holder_goes hd (Bool.and_eq_true_iff.mp hslot).2
      exact ⟨d.task, w', hgo, .inr ⟨d, hd, rfl⟩⟩
    · obtain ⟨w', hgo⟩ : ∃ w', w.go names p = some w' := go_of_acquire hp hl fun hk => by
        obtain ⟨c, hc, htask⟩ := LockTable.knows_iff.mp hk
        exact .inr ⟨c, hc, htask, Bool.eq_false_iff.mpr fun htrue => hheld ⟨c, hc, htask, htrue⟩⟩
      exact ⟨p, w', hgo, .inl rfl⟩
  · obtain ⟨w', hgo⟩ : ∃ w', w.go names p = some w' :=
      go_of_not_acquire hp hl hdone fun key next he => hacquire ⟨key, next, he⟩
    exact ⟨p, w', hgo, .inl rfl⟩

end Weave

namespace Crew

variable {α : Type} {names : Naming} {permits : Nat → Nat} {c c' : Crew α}

def due (c : Crew α) (p : Nat) : Option (Routine α) × Nat :=
  ((c.weave.strands[p]?).bind (·.left),
    c.weave.locks.toll p + (c.tasks[p]?).elim 0 (Stage.toll ·.2))

def work (c : Crew α) : Multiset (Option (Routine α) × Nat) :=
  (Multiset.range c.tasks.length).map c.due

theorem map_range_exchange {β : Type} {f g : Nat → β} {p n : Nat} (hp : p < n)
    (h : ∀ q, q ≠ p → f q = g q) :
    (Multiset.range n).map f + {g p} = (Multiset.range n).map g + {f p} := by
  have hsplit : p ::ₘ (Multiset.range n).erase p = Multiset.range n :=
    Multiset.cons_erase (Multiset.mem_range.mpr hp)
  have hrest : ((Multiset.range n).erase p).map f = ((Multiset.range n).erase p).map g :=
    Multiset.map_congr rfl fun q hq =>
      h q ((Multiset.Nodup.mem_erase_iff (Multiset.nodup_range n)).mp hq).1
  rw [← hsplit, Multiset.map_cons, Multiset.map_cons, hrest, Multiset.cons_add, Multiset.cons_add,
    Multiset.add_comm _ {g p}, Multiset.add_comm _ {f p}, Multiset.singleton_add,
    Multiset.singleton_add, Multiset.cons_swap]

theorem cutExpand_map_range {β : Type} {r : β → β → Prop} {f g : Nat → β} {p n : Nat} (hp : p < n)
    (hless : r (f p) (g p)) (hothers : ∀ q, q ≠ p → f q = g q) :
    Relation.CutExpand r ((Multiset.range n).map f) ((Multiset.range n).map g) :=
  ⟨{f p}, g p, fun _ hx => Multiset.mem_singleton.mp hx ▸ hless, map_range_exchange hp hothers⟩

theorem work_less {p : Nat} (hp : p < c.tasks.length) (hlength : c'.tasks.length = c.tasks.length)
    (hless : Prod.Lex Routine.After (· < ·) (c'.due p) (c.due p))
    (hothers : ∀ q, q ≠ p → c'.due q = c.due q) :
    Relation.CutExpand (Prod.Lex Routine.After (· < ·)) c'.work c.work := by
  rw [work, work, hlength]
  exact cutExpand_map_range hp hless hothers

theorem work_less_of_stage {p order : Nat} {stage stage' : Stage}
    (hp : c.tasks[p]? = some (order, stage)) (hless : stage'.toll < stage.toll)
    (joined : List Nat) :
    Relation.CutExpand (Prod.Lex Routine.After (· < ·))
      (work { c with tasks := c.tasks.set p (order, stage'), joined }) c.work := by
  have hlt := (List.getElem?_eq_some_iff.mp hp).1
  refine work_less hlt List.length_set ?_ fun q hq => ?_
  · simp only [due, List.getElem?_set_self hlt, hp]
    exact .right _ (Nat.add_lt_add_left hless _)
  · simp only [due, List.getElem?_set_ne (Ne.symm hq)]

theorem Step.less (h : Step names permits c c') :
    Relation.CutExpand (Prod.Lex Routine.After (· < ·)) c'.work c.work := by
  cases h with
  | enter hp _ | leave hp _ _ | join hp => exact work_less_of_stage hp (by decide) _
  | @work p order w hp hgo =>
    obtain ⟨strand, strand', hstrand, hset, hclaims, hless⟩ := Weave.go_cases hgo
    refine work_less (List.getElem?_eq_some_iff.mp hp).1 rfl ?_ fun q hq => ?_
    · simp only [due, hset, Weave.getElem?_set hstrand, hstrand]
      obtain hless | ⟨hsame, htoll⟩ := hless
      · exact .left _ _ hless
      · rw [Option.bind_some, hsame]
        exact .right _ (Nat.add_lt_add_right htoll _)
    · simp only [due, hset, List.getElem?_set_ne (Ne.symm hq)]
      rw [LockTable.toll_congr fun cl hcl => hclaims cl (hcl ▸ hq)]

theorem step_wellFounded : WellFounded fun c' c : Crew α => Step names permits c c' :=
  Subrelation.wf (fun h => Step.less h) (InvImage.wf work
    (WellFounded.cutExpand (Prod.lex ⟨_, Routine.after_wellFounded⟩ ⟨_, Nat.lt_wfRel.wf⟩).wf))

theorem Ends.of_invariant {I post : Crew α → Prop}
    (hstep : ∀ c c', I c → Step names permits c c' → I c')
    (hend : ∀ c, I c → (∀ c', ¬ Step names permits c c') → c.Done ∧ post c) (h : I c) :
    Ends names permits post c := by
  induction c using step_wellFounded.induction (r := fun c' c => Step names permits c c') with
  | _ c ih => exact ⟨hend c h, fun c' hc' => ih c' hc' (hstep c c' h hc')⟩

/-- Only working tasks have claims, no routine was given up, those of tasks that left are done, and
the tasks that were joined are on the list once. -/
structure Manned (names : Naming) (c : Crew α) : Prop where
  upheld : c.weave.Upheld names false fun _ st => st.hold = none
  length : c.tasks.length = c.weave.strands.length
  left : ∀ strand ∈ c.weave.strands, strand.left ≠ none
  claims : ∀ cl ∈ c.weave.locks.claims, ∃ order, c.tasks[cl.task]? = some (order, .working)
  done : ∀ (p order : Nat) (stage : Stage), c.tasks[p]? = some (order, stage) →
    stage = .leaving ∨ stage = .joined →
      ∃ strand a, c.weave.strands[p]? = some strand ∧ strand.left = some (.done a)
  nodup : c.joined.Nodup
  joined : ∀ p, p ∈ c.joined ↔ ∃ order, c.tasks[p]? = some (order, .joined)

theorem getElem?_tasks {β : Type} {tasks : List β} {p : Nat} {task : β}
    (hp : tasks[p]? = some task) (task' : β) (q : Nat) :
    (tasks.set p task')[q]? = if q = p then some task' else tasks[q]? := by
  split
  · rename_i he
    rw [he, List.getElem?_set_self (List.getElem?_eq_some_iff.mp hp).1]
  · rename_i hne
    rw [List.getElem?_set_ne (Ne.symm hne)]

theorem manned_start {tasks : List (Nat × Routine α)} {locks : LockTable Nat} {s : Store}
    (hlocks : locks.Sound) (hfree : locks.claims = []) (hs : s.Sound names)
    (htasks : ∀ t ∈ tasks, Abides names false (fun _ st => st.hold = none) ⟨none, [], []⟩ t.2) :
    (start tasks locks s).Manned names := by
  have hwaiting : ∀ (p : Nat) (task : Nat × Stage), (start tasks locks s).tasks[p]? = some task →
      task.2 = .waiting := by
    intro p task hp
    obtain ⟨t, -, rfl⟩ := List.mem_map.mp (List.mem_of_getElem? hp)
    rfl
  refine ⟨Weave.upheld_start hlocks hfree hs fun routine hr => ?_, by simp [start, Weave.start],
    fun strand hstrand => ?_, fun cl hcl => ?_, fun p order stage hp hlate => ?_, List.nodup_nil,
    fun p => ?_⟩
  · obtain ⟨t, ht, rfl⟩ := List.mem_map.mp hr
    exact htasks t ht
  · obtain ⟨routine, -, rfl⟩ := List.mem_map.mp hstrand
    exact Option.some_ne_none _
  · change cl ∈ locks.claims at hcl
    rw [hfree] at hcl
    cases hcl
  · obtain rfl : stage = .waiting := hwaiting p _ hp
    simp at hlate
  · refine iff_of_false List.not_mem_nil ?_
    rintro ⟨order, hp⟩
    cases hwaiting p _ hp

theorem Manned.stage (h : c.Manned names) {p order : Nat} {stage stage' : Stage}
    (hp : c.tasks[p]? = some (order, stage)) (hstage : stage ≠ .joined) (hstage' : stage' ≠ .joined)
    (hclaims : stage' ≠ .working → ∀ cl ∈ c.weave.locks.claims, cl.task ≠ p)
    (hdone : stage' = .leaving →
      ∃ strand a, c.weave.strands[p]? = some strand ∧ strand.left = some (.done a)) :
    Manned names { c with tasks := c.tasks.set p (order, stage') } := by
  refine ⟨h.upheld, List.length_set.trans h.length, h.left, fun cl hcl => ?_,
    fun q order' stage'' hq hlate => ?_, h.nodup, fun q => ?_⟩
  · by_cases hqp : cl.task = p
    · have hworking : stage' = .working := by
        by_contra hne
        exact hclaims hne cl hcl hqp
      exact ⟨order, by rw [getElem?_tasks hp, if_pos hqp, hworking]⟩
    · obtain ⟨order', hold⟩ := h.claims cl hcl
      exact ⟨order', by rw [getElem?_tasks hp, if_neg hqp, hold]⟩
  · rw [getElem?_tasks hp] at hq
    split at hq
    · rename_i he
      cases hq
      exact he ▸ hdone (hlate.resolve_right hstage')
    · exact h.done q order' stage'' hq hlate
  · rw [h.joined q, getElem?_tasks hp]
    split
    · rename_i he
      subst he
      simp [hp, hstage, hstage']
    · rfl

theorem Manned.work (h : c.Manned names) {p order : Nat} {w : Weave α}
    (hp : c.tasks[p]? = some (order, .working)) (hgo : c.weave.go names p = some w) :
    Manned names { c with weave := w } := by
  obtain ⟨strand, strand', hstrand, hset, hclaims, hless⟩ := Weave.go_cases hgo
  have hleft : strand'.left ≠ none := by
    obtain hafter | ⟨hsame, -⟩ := hless
    · intro hnone
      rw [hnone] at hafter
      cases hafter
    · rw [hsame]
      exact h.left strand (List.mem_of_getElem? hstrand)
  refine ⟨h.upheld.step (Weave.step_of_go hgo), ?_, fun other ho => ?_, fun cl hcl => ?_,
    fun q order' stage hq hlate => ?_, h.nodup, h.joined⟩
  · rw [h.length, hset, List.length_set]
  · rw [hset] at ho
    obtain ho | rfl := List.mem_or_eq_of_mem_set ho
    · exact h.left other ho
    · exact hleft
  · by_cases hqp : cl.task = p
    · exact ⟨order, hqp ▸ hp⟩
    · exact h.claims cl ((hclaims cl hqp).mp hcl)
  · obtain ⟨other, a, ho, hl⟩ := h.done q order' stage hq hlate
    have hne : q ≠ p := by
      rintro rfl
      rw [hp] at hq
      cases hq
      simp at hlate
    exact ⟨other, a, by rw [hset, List.getElem?_set_ne (Ne.symm hne), ho], hl⟩

theorem Manned.join (h : c.Manned names) {p order : Nat}
    (hp : c.tasks[p]? = some (order, .leaving)) :
    Manned names
      { c with tasks := c.tasks.set p (order, .joined), joined := c.joined ++ [p] } := by
  have hnew : p ∉ c.joined := by
    rw [h.joined p, hp]
    simp
  refine ⟨h.upheld, List.length_set.trans h.length, h.left, fun cl hcl => ?_,
    fun q order' stage hq hlate => ?_, ?_, fun q => ?_⟩
  · obtain ⟨order', hold⟩ := h.claims cl hcl
    refine ⟨order', ?_⟩
    rw [getElem?_tasks hp, if_neg, hold]
    intro he
    rw [he, hp] at hold
    cases hold
  · rw [getElem?_tasks hp] at hq
    split at hq
    · rename_i he
      exact he ▸ h.done p order _ hp (.inl rfl)
    · exact h.done q order' stage hq hlate
  · rw [← List.concat_eq_append]
    exact h.nodup.concat hnew
  · rw [List.mem_append, List.mem_singleton, h.joined q, getElem?_tasks hp]
    split
    · rename_i he
      simp [he]
    · rename_i hne
      simp [hne]

theorem Manned.step (h : c.Manned names) (hstep : Step names permits c c') : c'.Manned names := by
  cases hstep with
  | enter hp _ => exact h.stage hp (by decide) (by decide) (fun hne => absurd rfl hne) nofun
  | work hp hgo => exact h.work hp hgo
  | leave hp hs hl =>
    refine h.stage hp (by decide) (by decide) (fun _ => ?_) fun _ => ⟨_, _, hs, hl⟩
    exact h.upheld.claims_of_done hs fun routine hr => ⟨_, Option.some.inj (hr.symm.trans hl)⟩
  | join hp => exact h.join hp

theorem Manned.done_of_stuck (h : c.Manned names) (hpermits : ∀ order, 0 < permits order)
    (hstuck : ∀ c', ¬ Step names permits c c') : c.Done := by
  have hleaving : ∀ p order : Nat, c.tasks[p]? ≠ some (order, .leaving) := fun p order hp =>
    hstuck _ (.join hp)
  have hworking : ∀ p order : Nat, c.tasks[p]? ≠ some (order, .working) := by
    intro p order hp
    have hlt := (List.getElem?_eq_some_iff.mp hp).1
    rw [h.length] at hlt
    have hstrand := List.getElem?_eq_getElem hlt
    obtain ⟨routine, hl⟩ := Option.ne_none_iff_exists'.mp (h.left _ (List.getElem_mem hlt))
    by_cases hdone : ∃ a, routine = .done a
    · obtain ⟨a, rfl⟩ := hdone
      exact hstuck _ (.leave hp hstrand hl)
    -- It can go on itself, or the holder of the lock that it waits for can.
    · obtain ⟨q, w', hgo, rfl | ⟨cl, hcl, rfl⟩⟩ := h.upheld.goes hstrand hl (not_exists.mp hdone)
      · exact hstuck _ (.work hp hgo)
      · obtain ⟨order', hq⟩ := h.claims cl hcl
        exact hstuck _ (.work hq hgo)
  have hwaiting : ∀ p order : Nat, c.tasks[p]? ≠ some (order, .waiting) := by
    intro p order hp
    refine hstuck _ (.enter hp ?_)
    -- No task is at work, so no permit is taken.
    have hnone : c.taken order = 0 := by
      refine List.count_eq_zero.mpr fun hm => ?_
      obtain ⟨q, hq⟩ := List.getElem?_of_mem hm
      exact hworking q order hq
    rw [hnone]
    exact hpermits order
  intro task hm
  obtain ⟨p, hp⟩ := List.getElem?_of_mem hm
  obtain ⟨order, stage⟩ := task
  cases stage with
  | waiting => exact absurd hp (hwaiting p order)
  | working => exact absurd hp (hworking p order)
  | leaving => exact absurd hp (hleaving p order)
  | joined => rfl

/-- What no step breaks holds once all tasks have been joined, and it comes to that. -/
theorem Manned.ends {I post : Crew α → Prop} (hpermits : ∀ order, 0 < permits order)
    (hstep : ∀ c c', c.Manned names → I c → Step names permits c c' → I c')
    (hend : ∀ c, c.Manned names → I c → c.Done → post c) (h : c.Manned names) (hI : I c) :
    Ends names permits post c := by
  refine Ends.of_invariant (I := fun c => c.Manned names ∧ I c)
    (fun c c' hc hs => ⟨hc.1.step hs, hstep c c' hc.1 hc.2 hs⟩) (fun c hc hstuck => ?_) ⟨h, hI⟩
  have hdone := hc.1.done_of_stuck hpermits hstuck
  exact ⟨hdone, hend c hc.1 hc.2 hdone⟩

theorem Manned.joined_perm (h : c.Manned names) (hdone : c.Done) :
    c.joined.Perm (List.range c.tasks.length) := by
  refine (List.perm_ext_iff_of_nodup h.nodup List.nodup_range).mpr fun p => ?_
  rw [h.joined p, List.mem_range]
  constructor
  · rintro ⟨order, hp⟩
    exact (List.getElem?_eq_some_iff.mp hp).1
  · intro hlt
    have hlast := hdone _ (List.getElem_mem hlt)
    exact ⟨_, (List.getElem?_eq_getElem hlt).trans (congrArg some (Prod.ext rfl hlast))⟩

end Crew

end Federation
