import Federation.Proofs.Weave
import Federation.Reconcile.Crowd

namespace Federation

namespace LockTable

inductive Grants : LockTable Nat → LockTable Nat → Prop
  | take {t : LockTable Nat} {p : Nat} (h : t.CanTake p) : Grants t (t.take p)

theorem take_middle {slots : List (String × Nat)} {before rest : List (Claim Nat)} {c : Claim Nat}
    {next : Nat} (halone : ((before ++ c :: rest).map (·.task)).Nodup) :
    (⟨slots, before ++ c :: rest, next⟩ : LockTable Nat).take c.task =
      ⟨slots, before ++ { c with holding := true } :: rest, next⟩ := by
  rw [List.map_append, List.map_cons, List.nodup_append] at halone
  obtain ⟨-, hrest, hbefore⟩ := halone
  have hother : ∀ l : List (Claim Nat), (∀ d ∈ l, d.task ≠ c.task) →
      l.map (fun d => if d.task = c.task then { d with holding := true } else d) = l := by
    intro l hl
    refine (List.map_congr_left fun d hd => ?_).trans (List.map_id l)
    exact if_neg (hl d hd)
  have hleft : ∀ d ∈ before, d.task ≠ c.task := fun d hd =>
    hbefore _ (List.mem_map_of_mem hd) _ List.mem_cons_self
  have hright : ∀ d ∈ rest, d.task ≠ c.task := by
    intro d hd he
    exact (List.nodup_cons.mp hrest).1 (he ▸ List.mem_map_of_mem hd)
  unfold take
  rw [List.map_append, List.map_cons, hother before hleft, hother rest hright, if_pos rfl]

theorem grants_grantAll {slots : List (String × Nat)} {next : Nat}
    {before rest : List (Claim Nat)} {taken : List Nat}
    (halone : ((before ++ rest).map (·.task)).Nodup)
    (htaken : ∀ d ∈ before ++ rest, d.holding = true → d.slot ∈ taken) :
    Relation.ReflTransGen Grants ⟨slots, before ++ rest, next⟩
      ⟨slots, before ++ grantAll taken rest, next⟩ := by
  -- The claims before the rest have been looked at, and `taken` has every slot that is held.
  induction rest generalizing before taken with
  | nil => exact .refl
  | cons c rest ih =>
    unfold grantAll
    by_cases hc : (c.holding || taken.contains c.slot) = true
    · rw [if_pos hc, List.append_cons before c rest, List.append_cons before c (grantAll _ _)]
      rw [List.append_cons] at halone htaken
      exact ih halone htaken
    · rw [if_neg hc]
      simp only [Bool.or_eq_true, List.contains_iff_mem, not_or, Bool.not_eq_true] at hc
      have hfree : (⟨slots, before ++ c :: rest, next⟩ : LockTable Nat).CanTake c.task := by
        refine ⟨c, by simp, rfl, List.any_eq_false.mpr fun d hd hh => ?_⟩
        rw [Bool.and_eq_true, beq_iff_eq] at hh
        exact hc.2 (hh.1 ▸ htaken d hd hh.2)
      refine .head (.take hfree) ?_
      rw [take_middle halone, List.append_cons before _ rest,
        List.append_cons before _ (grantAll _ _)]
      refine ih (by simpa using halone) fun d hd hh => ?_
      rw [List.append_assoc, List.mem_append, List.mem_append, List.mem_singleton] at hd
      obtain hd | rfl | hd := hd
      · exact List.mem_cons_of_mem _ (htaken d (by simp [hd]) hh)
      · exact List.mem_cons_self
      · exact List.mem_cons_of_mem _ (htaken d (by simp [hd]) hh)

theorem grants_grant {t : LockTable Nat} (h : t.Sound) :
    Relation.ReflTransGen Grants t t.grant := by
  refine @grants_grantAll t.slots t.next [] t.claims _ h.alone fun d hd hh => ?_
  exact List.mem_map_of_mem (List.mem_filter.mpr ⟨hd, hh⟩)

end LockTable

namespace Weave

variable {α : Type} {names : Naming}

theorem steps_of_grants {w : Weave α} {locks : LockTable Nat}
    (h : Relation.ReflTransGen LockTable.Grants w.locks locks) :
    Relation.ReflTransGen (Step names) w { w with locks } := by
  induction h with
  | refl => exact .refl
  | tail _ hgrant ih =>
    obtain ⟨hcan⟩ := hgrant
    exact ih.tail (.take hcan)

theorem sound_locks_step {w w' : Weave α} (h : w.locks.Sound) (hstep : w.Step names w') :
    w'.locks.Sound := by
  cases hstep with
  | ask _ _ hk => exact h.ask hk _
  | take hcan => exact h.take hcan
  | leave => exact h.drop _
  | enter | note | call | refuse => exact h

theorem sound_locks_steps {w w' : Weave α} (h : w.locks.Sound)
    (hsteps : Relation.ReflTransGen (Step names) w w') : w'.locks.Sound := by
  induction hsteps with
  | refl => exact h
  | tail _ hstep ih => exact sound_locks_step ih hstep

end Weave

namespace Crowd

variable {α : Type} {names : Naming}

/-- The same is left of each routine, with the same on record, and no token is cancelled. -/
structure Woven (crowd : Crowd α Store) (w : Weave α) : Prop where
  strands : w.strands.map (fun strand => (strand.left, strand.cancelled, strand.changes)) =
    crowd.strands.map fun (routine, changes) => (some routine, false, changes)
  locks : w.locks = crowd.locks
  store : w.store = crowd.directory

def Comes (names : Naming) (w : Weave α) (p : Nat)
    (r : (Routine α × List Change) × LockTable Nat × Store) : Prop :=
  ∃ strand, Relation.ReflTransGen (Weave.Step names) w ⟨w.strands.set p strand, r.2.1, r.2.2⟩ ∧
    strand.left = some r.1.1 ∧ strand.cancelled = false ∧ strand.changes = r.1.2

theorem Comes.after {w : Weave α} {p : Nat} {strand : Strand α} {locks : LockTable Nat} {s : Store}
    {r : (Routine α × List Change) × LockTable Nat × Store}
    (hsteps : Relation.ReflTransGen (Weave.Step names) w ⟨w.strands.set p strand, locks, s⟩)
    (h : Comes names ⟨w.strands.set p strand, locks, s⟩ p r) : Comes names w p r := by
  obtain ⟨strand', hmore, h'⟩ := h
  rw [List.set_set] at hmore
  exact ⟨strand', hsteps.trans hmore, h'⟩

theorem comes_advance {w : Weave α} {p : Nat} {strand : Strand α} {routine : Routine α}
    (hp : w.strands[p]? = some strand) (hl : strand.left = some routine)
    (hc : strand.cancelled = false) (hs : w.locks.Sound) :
    Comes names w p
      (advance (Store.behaviour names) p routine strand.changes w.locks w.store) := by
  induction routine generalizing w strand with
  | done a =>
    refine ⟨strand, ?_, hl, hc, rfl⟩
    rw [advance, Weave.set_self hp]
  | call c next _ => exact ⟨_, .single (.call hp hl hc), rfl, hc, rfl⟩
  -- To grant slots in the order of asking is to take them one by one.
  | acquire key next ih =>
    have hasked : Relation.ReflTransGen (Weave.Step names) w
        { w with locks := if w.locks.knows p then w.locks else w.locks.ask p key } := by
      cases hk : w.locks.knows p with
      | true => exact .refl
      | false => exact .single (.ask hp hl hk)
    have hgrants := LockTable.grants_grant (Weave.sound_locks_steps hs hasked)
    have hsteps := hasked.trans (Weave.steps_of_grants hgrants)
    have hs' := Weave.sound_locks_steps hs hsteps
    unfold advance
    by_cases hh : (if w.locks.knows p then w.locks else w.locks.ask p key).grant.holds p = true
    · simp only [hh, ↓reduceIte]
      have h := @ih ⟨_, _, w.store⟩ { strand with left := some next } (Weave.getElem?_set hp _)
        rfl hc hs'
      exact .after (hsteps.tail (.enter hp hl hh)) h
    · simp only [hh, Bool.false_eq_true, ↓reduceIte]
      refine ⟨strand, ?_, hl, hc, rfl⟩
      rw [Weave.set_self hp]
      exact hsteps
  | release key next ih =>
    have hsteps : Relation.ReflTransGen (Weave.Step names) w
        ⟨w.strands.set p { strand with left := some next }, (w.locks.drop p).grant, w.store⟩ :=
      .head (.leave hp hl) (Weave.steps_of_grants (LockTable.grants_grant (hs.drop p)))
    have hs' := Weave.sound_locks_steps hs hsteps
    have h := @ih ⟨_, _, w.store⟩ { strand with left := some next } (Weave.getElem?_set hp _)
      rfl hc hs'
    exact .after hsteps h
  | record change next ih =>
    have h := @ih ⟨_, w.locks, w.store⟩
      { strand with left := some next, changes := strand.changes ++ [change] }
      (Weave.getElem?_set hp _) rfl hc hs
    exact .after (.single (.note hp hl)) h

theorem Woven.strand {crowd : Crowd α Store} {w : Weave α} (h : crowd.Woven w) {p : Nat}
    {routine : Routine α} {changes : List Change}
    (hp : crowd.strands[p]? = some (routine, changes)) :
    ∃ strand, w.strands[p]? = some strand ∧ strand.left = some routine ∧
      strand.cancelled = false ∧ strand.changes = changes := by
  have hmap := congrArg (·[p]?) h.strands
  simp only [List.getElem?_map, hp, Option.map_some] at hmap
  obtain ⟨strand, hs, he⟩ := Option.map_eq_some_iff.mp hmap
  simp only [Prod.mk.injEq] at he
  exact ⟨strand, hs, he⟩

theorem Woven.turn {crowd : Crowd α Store} {w : Weave α} (h : crowd.Woven w) (hs : w.locks.Sound)
    (p : Nat) :
    ∃ w', Relation.ReflTransGen (Weave.Step names) w w' ∧
      (crowd.turn (Store.behaviour names) p).Woven w' := by
  cases hp : crowd.strands[p]? with
  | none =>
    refine ⟨w, .refl, ?_⟩
    simp only [Crowd.turn, hp]
    exact h
  | some m =>
    obtain ⟨routine, changes⟩ := m
    obtain ⟨strand, hp', hl, hc, rfl⟩ := h.strand hp
    obtain ⟨strand', hsteps, hl', hc', hchanges⟩ := comes_advance hp' hl hc hs
    refine ⟨_, hsteps, ?_⟩
    simp only [Crowd.turn, hp, ← h.locks, ← h.store]
    refine ⟨?_, rfl, rfl⟩
    rw [List.map_set, List.map_set, h.strands, hl', hc', hchanges]

/-- The turns of a schedule are steps of a weave. -/
theorem woven_follow (routines : List (Routine α)) (schedule : List Nat) (s : Store) :
    ∃ w, Relation.ReflTransGen (Weave.Step names) (.start routines .empty s) w ∧
      ((start routines s).follow (Store.behaviour names) schedule).Woven w := by
  have hstart : (start routines s).Woven (.start routines .empty s) := by
    refine ⟨?_, rfl, rfl⟩
    simp [start, Weave.start, Strand.start]
  suffices ∀ (crowd : Crowd α Store) (w : Weave α), crowd.Woven w → w.locks.Sound →
      ∃ w', Relation.ReflTransGen (Weave.Step names) w w' ∧
        (crowd.follow (Store.behaviour names) schedule).Woven w' from
    this _ _ hstart LockTable.sound_empty
  induction schedule with
  | nil => exact fun crowd w h _ => ⟨w, .refl, h⟩
  | cons p rest ih =>
    intro crowd w h hs
    obtain ⟨w₁, hsteps, h₁⟩ := h.turn hs p
    obtain ⟨w₂, hmore, h₂⟩ := ih _ w₁ h₁ (Weave.sound_locks_steps hs hsteps)
    exact ⟨w₂, hsteps.trans hmore, h₂⟩

def results {σ : Type} (crowd : Crowd α σ) : List α := crowd.strands.filterMap (·.1.result?)

theorem Woven.results {crowd : Crowd α Store} {w : Weave α} (h : crowd.Woven w) :
    w.results = crowd.results := by
  have hresults := congrArg (List.filterMap fun x => x.1.bind (·.result?)) h.strands
  rw [List.filterMap_map, List.filterMap_map] at hresults
  exact hresults

theorem Woven.idle {crowd : Crowd α Store} {w : Weave α} (h : crowd.Woven w)
    (hdone : ∀ m ∈ crowd.strands, ∃ a, m.1 = .done a) : w.Idle := by
  intro strand hs routine hl
  have hm := List.mem_map_of_mem (f := fun s => (s.left, s.cancelled, s.changes)) hs
  rw [h.strands] at hm
  obtain ⟨⟨left, changes⟩, hm, he⟩ := List.mem_map.mp hm
  have hleft : some left = strand.left := congrArg (·.1) he
  obtain rfl : left = routine := Option.some.inj (hleft.trans hl)
  exact hdone _ hm

end Crowd

end Federation
