import Federation.Proofs.Crowd

namespace Federation.LockTable

section Slots

variable {τ : Type} {t : LockTable τ}

/-- Slots are told apart by their numbers, and the next one is new. -/
structure Numbered (t : LockTable τ) : Prop extends Sound t where
  apart : (t.slots.map (·.2)).Nodup
  older : ∀ e ∈ t.slots, e.2 < t.next

theorem numbered_empty : (empty : LockTable τ).Numbered :=
  ⟨sound_empty, .nil, fun _ h => nomatch h⟩

theorem Sound.slot?_eq (h : t.Sound) {c : Claim τ} (hc : c ∈ t.claims) :
    t.slot? c.key = some c.slot := by
  have hplaced := h.placed c hc
  cases hs : t.slot? c.key with
  | none =>
    have hne := List.lookup_eq_none_iff.mp hs _ hplaced
    simp at hne
  | some slot =>
    obtain ⟨before, after, hsplit, -⟩ := List.lookup_eq_some_iff.mp hs
    have hmem : (c.key, slot) ∈ t.slots := by simp [hsplit]
    have heq : (c.key, slot) = (c.key, c.slot) :=
      List.inj_on_of_nodup_map h.keyed hmem hplaced rfl
    rw [(Prod.mk.inj heq).2]

theorem Numbered.key_of_slot (h : t.Numbered) {c d : Claim τ} (hc : c ∈ t.claims)
    (hd : d ∈ t.claims) (he : c.slot = d.slot) : c.key = d.key :=
  congrArg Prod.fst (List.inj_on_of_nodup_map h.apart (h.placed c hc) (h.placed d hd) he)

theorem slots_ask_cases (t : LockTable τ) (task : τ) (key : String) :
    ((t.ask task key).slots = t.prune.slots ∧ (t.ask task key).next = t.next) ∨
      ((t.ask task key).slots = t.prune.slots ++ [(key, t.next)] ∧
        (t.ask task key).next = t.next + 1) := by
  unfold ask
  dsimp only
  split
  · exact .inl ⟨rfl, rfl⟩
  · exact .inr ⟨rfl, rfl⟩

theorem Sound.claimed_ask (h : t.Sound) (task : τ) (key : String) {e : String × Nat}
    (he : e ∈ (t.ask task key).slots) : ∃ c ∈ (t.ask task key).claims, c.slot = e.2 := by
  obtain ⟨slot, hclaims⟩ := t.claims_ask task key
  obtain ⟨hplaced, hkeyed⟩ := h.slots_ask task key
  by_cases hkey : e.1 = key
  · -- The entry is the one of the new claim, for no key has two.
    have hnew : (⟨task, key, slot, false⟩ : Claim τ) ∈ (t.ask task key).claims := by simp [hclaims]
    have heq : (key, slot) = e :=
      List.inj_on_of_nodup_map hkeyed (hplaced _ hnew) he hkey.symm
    exact ⟨_, hnew, congrArg Prod.snd heq⟩
  · have hpruned : e ∈ t.prune.slots := by
      obtain ⟨hslots, -⟩ | ⟨hslots, -⟩ := t.slots_ask_cases task key
      · rwa [hslots] at he
      · rw [hslots] at he
        obtain he | he := List.mem_append.mp he
        · exact he
        · rw [List.mem_singleton.mp he] at hkey
          exact absurd rfl hkey
    obtain ⟨c, hc, hslot⟩ := List.any_eq_true.mp (List.mem_filter.mp hpruned).2
    exact ⟨c, hclaims ▸ List.mem_append_left _ hc, eq_of_beq hslot⟩

variable [DecidableEq τ]

theorem Numbered.ask (h : t.Numbered) {task : τ} (hk : t.knows task = false) (key : String) :
    (t.ask task key).Numbered := by
  have hkept : (t.prune.slots.map (·.2)).Nodup := h.apart.sublist (List.filter_sublist.map _)
  have hold : ∀ e ∈ t.prune.slots, e.2 < t.next := fun e he => h.older e (List.mem_of_mem_filter he)
  refine ⟨h.toSound.ask hk key, ?_, ?_⟩
  · obtain ⟨hslots, -⟩ | ⟨hslots, -⟩ := t.slots_ask_cases task key
    · rwa [hslots]
    · rw [hslots, List.map_append]
      refine List.nodup_append.mpr ⟨hkept, List.nodup_singleton _, ?_⟩
      rintro a ha b hb rfl
      obtain rfl : a = t.next := List.mem_singleton.mp hb
      obtain ⟨e, he, heq⟩ := List.mem_map.mp ha
      exact absurd heq (Nat.ne_of_lt (hold e he))
  · obtain ⟨hslots, hnext⟩ | ⟨hslots, hnext⟩ := t.slots_ask_cases task key
    · rwa [hslots, hnext]
    · rw [hslots, hnext]
      intro e he
      obtain he | he := List.mem_append.mp he
      · exact Nat.lt_succ_of_lt (hold e he)
      · rw [List.mem_singleton.mp he]
        exact Nat.lt_succ_self _

/-- The tables that lock calls come to, each of them a task of its own: it asks for its key, takes
its slot when that is free, and at any time gives it back or waits no longer. -/
inductive Reached : LockTable τ → Prop
  | start : Reached .empty
  | ask {t : LockTable τ} {task : τ} (h : Reached t) (hk : t.knows task = false) (key : String) :
    Reached (t.ask task key)
  | take {t : LockTable τ} {task : τ} (h : Reached t) (hcan : t.CanTake task) :
    Reached (t.take task)
  | drop {t : LockTable τ} (h : Reached t) (task : τ) : Reached (t.drop task)

theorem Reached.numbered (h : t.Reached) : t.Numbered := by
  induction h with
  | start => exact numbered_empty
  | ask _ hk key ih => exact ih.ask hk key
  | take _ hcan ih => exact ⟨ih.toSound.take hcan, ih.apart, ih.older⟩
  | drop _ task ih => exact ⟨ih.toSound.drop task, ih.apart, ih.older⟩

/-- All claims on a key are on the one slot that the key has, so that one task at most holds it; who
waits does so for a holder of the same key; and a lock call leaves no slot that nobody waits for or
holds. -/
theorem Reached.exclusive_slots (h : t.Reached) :
    (t.slots.map (·.1)).Nodup ∧
    (∀ c ∈ t.claims, t.slot? c.key = some c.slot) ∧
    (∀ task task' key, t.Owns task key → t.Owns task' key → task = task') ∧
    (∀ c ∈ t.claims, ∀ d ∈ t.claims, c.holding = false → d.holding = true → c.slot = d.slot →
      c.key = d.key) ∧
    ∀ task key, t.knows task = false → ∀ e ∈ (t.ask task key).slots,
      ∃ c ∈ (t.ask task key).claims, c.key = e.1 ∧ c.slot = e.2 := by
  have hn := h.numbered
  refine ⟨hn.keyed, fun c hc => hn.slot?_eq hc, fun _ _ _ ho ho' => hn.exclusive ho ho',
    fun c hc d hd _ _ he => hn.key_of_slot hc hd he, fun task key hk e he => ?_⟩
  -- Every slot has a claim on it after the ask, and numbers tell slots apart.
  obtain ⟨c, hc, hslot⟩ := hn.claimed_ask task key he
  have hasked := hn.ask hk key
  have heq : (c.key, c.slot) = e :=
    List.inj_on_of_nodup_map hasked.apart (hasked.placed c hc) he hslot
  exact ⟨c, hc, congrArg Prod.fst heq, hslot⟩

def shared : LockTable Nat :=
  let held := ((empty.ask 0 "application:foo").take 0).ask 1 "application:foo"
  (held.ask 2 "application:bar").drop 2

theorem shared_reached : shared.Reached :=
  have hfirst : (empty.ask 0 "application:foo" : LockTable Nat).Reached := .ask .start rfl _
  have hheld := hfirst.take ⟨_, List.mem_singleton_self _, rfl, rfl⟩
  .drop (.ask (.ask hheld rfl _) rfl _) 2

/-- The next call leaves no trace of the key that was given up. -/
theorem exclusive_slots_shared :
    shared.Reached ∧ shared.slots = [("application:foo", 0), ("application:bar", 1)] ∧
      shared.holders = [0] ∧ shared.waiters = [1] ∧
      (∀ task task' key, shared.Owns task key → shared.Owns task' key → task = task') ∧
      shared.knows 3 = false ∧
      (shared.ask 3 "application:baz").slots = [("application:foo", 0), ("application:baz", 2)] ∧
      ∀ e ∈ (shared.ask 3 "application:baz").slots,
        ∃ c ∈ (shared.ask 3 "application:baz").claims, c.key = e.1 ∧ c.slot = e.2 := by
  obtain ⟨-, -, hexclusive, -, hclaimed⟩ := shared_reached.exclusive_slots
  exact ⟨shared_reached, rfl, rfl, rfl, hexclusive, rfl, rfl, hclaimed 3 _ rfl⟩

end Slots

theorem Reached.grant {t : LockTable Nat} (h : t.Reached) : t.grant.Reached := by
  have hsteps : ∀ u, Relation.ReflTransGen Grants t u → u.Reached := by
    intro u hgrants
    induction hgrants with
    | refl => exact h
    | tail _ hgrant ih =>
      obtain ⟨hcan⟩ := hgrant
      exact ih.take hcan
  exact hsteps _ (grants_grant h.numbered.toSound)

end Federation.LockTable
