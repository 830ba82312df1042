import Mathlib.Data.List.Nodup
import Federation.Reconcile.Lock

namespace Federation.LockTable

section Sound

variable {τ : Type} {t : LockTable τ}

/-- A task has one claim, a claim refers to the slot of its key, a key has one slot, and a slot has
one holder. -/
structure Sound (t : LockTable τ) : Prop where
  alone : (t.claims.map (·.task)).Nodup
  placed : ∀ c ∈ t.claims, (c.key, c.slot) ∈ t.slots
  keyed : (t.slots.map (·.1)).Nodup
  single : ∀ c ∈ t.claims, ∀ d ∈ t.claims, c.holding = true → d.holding = true →
    c.slot = d.slot → c = d

theorem sound_empty : (empty : LockTable τ).Sound := by
  constructor <;> simp [empty]

theorem Sound.eq_of_task (h : t.Sound) {c d : Claim τ} (hc : c ∈ t.claims) (hd : d ∈ t.claims)
    (he : c.task = d.task) : c = d :=
  List.inj_on_of_nodup_map h.alone hc hd he

theorem Sound.slot_of_key (h : t.Sound) {c d : Claim τ} (hc : c ∈ t.claims) (hd : d ∈ t.claims)
    (he : c.key = d.key) : c.slot = d.slot :=
  congrArg Prod.snd (List.inj_on_of_nodup_map h.keyed (h.placed c hc) (h.placed d hd) he)

def Owns (t : LockTable τ) (task : τ) (key : String) : Prop :=
  ∃ c ∈ t.claims, c.task = task ∧ c.key = key ∧ c.holding = true

/-- No two tasks hold the lock of one key. -/
theorem Sound.exclusive (h : t.Sound) {task task' : τ} {key : String} (ho : t.Owns task key)
    (ho' : t.Owns task' key) : task = task' := by
  obtain ⟨c, hc, rfl, hkey, hh⟩ := ho
  obtain ⟨d, hd, rfl, hkey', hh'⟩ := ho'
  rw [h.single c hc d hd hh hh' (h.slot_of_key hc hd (hkey.trans hkey'.symm))]

theorem not_holding_of_free {slot : Nat} (h : t.held slot = false) {c : Claim τ}
    (hc : c ∈ t.claims) (hs : c.slot = slot) : c.holding = false := by
  have hn := List.any_eq_false.mp h c hc
  simpa [hs] using hn

theorem claims_ask (t : LockTable τ) (task : τ) (key : String) :
    ∃ slot, (t.ask task key).claims = t.claims ++ [⟨task, key, slot, false⟩] := by
  unfold ask
  dsimp only
  split
  · exact ⟨_, rfl⟩
  · exact ⟨_, rfl⟩

theorem mem_ask_other {task : τ} {key : String} {c : Claim τ} (hc : c.task ≠ task) :
    c ∈ (t.ask task key).claims ↔ c ∈ t.claims := by
  obtain ⟨slot, hclaims⟩ := t.claims_ask task key
  rw [hclaims, List.mem_append, List.mem_singleton, or_iff_left]
  rintro rfl
  exact hc rfl

theorem Sound.slots_ask (h : t.Sound) (task : τ) (key : String) :
    (∀ c ∈ (t.ask task key).claims, (c.key, c.slot) ∈ (t.ask task key).slots) ∧
      ((t.ask task key).slots.map (·.1)).Nodup := by
  have hkept : ∀ c ∈ t.claims, (c.key, c.slot) ∈ t.prune.slots := by
    intro c hc
    refine List.mem_filter.mpr ⟨h.placed c hc, ?_⟩
    exact List.any_eq_true.mpr ⟨c, hc, beq_self_eq_true _⟩
  have hkeyed : (t.prune.slots.map (·.1)).Nodup := h.keyed.sublist (List.filter_sublist.map _)
  unfold ask
  dsimp only
  split
  · rename_i slot hs
    refine ⟨fun c hc => ?_, hkeyed⟩
    obtain hc | hc := List.mem_append.mp hc
    · exact hkept c hc
    · obtain ⟨before, after, hsplit, -⟩ := List.lookup_eq_some_iff.mp hs
      rw [List.mem_singleton.mp hc, hsplit]
      exact List.mem_append_right _ List.mem_cons_self
  · rename_i hs
    constructor
    · intro c hc
      obtain hc | hc := List.mem_append.mp hc
      · exact List.mem_append_left _ (hkept c hc)
      · rw [List.mem_singleton.mp hc]
        exact List.mem_append_right _ (List.mem_singleton_self _)
    · have hnew : key ∉ t.prune.slots.map (·.1) := by
        intro hm
        obtain ⟨e, he, hk⟩ := List.mem_map.mp hm
        have hne := List.lookup_eq_none_iff.mp hs e he
        simp [hk] at hne
      rw [List.map_append]
      refine List.nodup_append.mpr ⟨hkeyed, List.nodup_singleton _, ?_⟩
      rintro a ha b hb rfl
      obtain rfl : a = key := List.mem_singleton.mp hb
      exact hnew ha

end Sound

variable {τ : Type} [DecidableEq τ] {t : LockTable τ} {task : τ}

theorem knows_iff : t.knows task = true ↔ ∃ c ∈ t.claims, c.task = task := by
  simp [knows]

theorem holds_iff : t.holds task = true ↔ ∃ c ∈ t.claims, c.task = task ∧ c.holding = true := by
  simp [holds]

def take (t : LockTable τ) (task : τ) : LockTable τ :=
  { t with claims := t.claims.map fun c => if c.task = task then { c with holding := true } else c }

def CanTake (t : LockTable τ) (task : τ) : Prop :=
  ∃ c ∈ t.claims, c.task = task ∧ t.held c.slot = false

theorem Sound.ask (h : t.Sound) (hk : t.knows task = false) (key : String) :
    (t.ask task key).Sound := by
  obtain ⟨slot, hclaims⟩ := claims_ask t task key
  obtain ⟨hplaced, hkeyed⟩ := h.slots_ask task key
  refine ⟨?_, hplaced, hkeyed, ?_⟩
  · have hnew : task ∉ t.claims.map (·.task) := by
      intro hm
      obtain ⟨c, hc, ht⟩ := List.mem_map.mp hm
      rw [knows_iff.mpr ⟨c, hc, ht⟩] at hk
      cases hk
    rw [hclaims, List.map_append]
    refine List.nodup_append.mpr ⟨h.alone, List.nodup_singleton _, ?_⟩
    rintro a ha b hb rfl
    obtain rfl : a = task := List.mem_singleton.mp hb
    exact hnew ha
  · have hold : ∀ c ∈ (t.ask task key).claims, c.holding = true → c ∈ t.claims := by
      intro c hc hh
      rw [hclaims] at hc
      obtain hc | hc := List.mem_append.mp hc
      · exact hc
      · rw [List.mem_singleton.mp hc] at hh
        cases hh
    exact fun c hc d hd hch hdh => h.single c (hold c hc hch) d (hold d hd hdh) hch hdh

theorem mem_take {c : Claim τ} (hc : c ∈ (t.take task).claims) :
    ∃ c₀ ∈ t.claims, c.task = c₀.task ∧ c.key = c₀.key ∧ c.slot = c₀.slot ∧
      (c.task ≠ task → c = c₀) := by
  obtain ⟨c₀, hc₀, he⟩ := List.mem_map.mp hc
  refine ⟨c₀, hc₀, ?_⟩
  by_cases ht : c₀.task = task
  · rw [if_pos ht] at he
    subst he
    exact ⟨rfl, rfl, rfl, fun hne => absurd ht hne⟩
  · rw [if_neg ht] at he
    subst he
    exact ⟨rfl, rfl, rfl, fun _ => rfl⟩

theorem mem_take_other {c : Claim τ} (hc : c.task ≠ task) :
    c ∈ (t.take task).claims ↔ c ∈ t.claims := by
  refine ⟨fun hm => ?_, fun hm => List.mem_map.mpr ⟨c, hm, if_neg hc⟩⟩
  obtain ⟨c₀, hc₀, -, -, -, he⟩ := mem_take hm
  rwa [he hc]

theorem map_task_take : (t.take task).claims.map (·.task) = t.claims.map (·.task) := by
  rw [take, List.map_map]
  refine List.map_congr_left fun c _ => ?_
  by_cases ht : c.task = task <;> simp [ht]

theorem Sound.take (h : t.Sound) (hcan : t.CanTake task) : (t.take task).Sound := by
  obtain ⟨w, hw, hwt, hfree⟩ := hcan
  have halone : ((t.take task).claims.map (·.task)).Nodup := by
    rw [map_task_take]
    exact h.alone
  -- A holder of the slot that is not the task itself would have held it before.
  have hother : ∀ c ∈ (t.take task).claims, c.holding = true → c.slot = w.slot →
      c.task = task := by
    intro c hc hh hs
    by_contra hne
    obtain ⟨c₀, hc₀, -, -, -, heq⟩ := mem_take hc
    rw [heq hne] at hh hs
    rw [not_holding_of_free hfree hc₀ hs] at hh
    cases hh
  have hslot : ∀ c ∈ (t.take task).claims, c.task = task → c.slot = w.slot := by
    intro c hc ht
    obtain ⟨c₀, hc₀, htask, -, hs, -⟩ := mem_take hc
    rw [hs, h.eq_of_task hc₀ hw (by rw [← htask, ht, hwt])]
  refine ⟨halone, fun c hc => ?_, h.keyed, fun c hc d hd hch hdh hs => ?_⟩
  · obtain ⟨c₀, hc₀, -, hk, hs, -⟩ := mem_take hc
    rw [hk, hs]
    exact h.placed c₀ hc₀
  · by_cases hct : c.task = task
    · have hdt := hother d hd hdh (by rw [← hs, hslot c hc hct])
      exact List.inj_on_of_nodup_map halone hc hd (hct.trans hdt.symm)
    · by_cases hdt : d.task = task
      · exact absurd (hother c hc hch (by rw [hs, hslot d hd hdt])) hct
      · obtain ⟨c₀, hc₀, -, -, -, hce⟩ := mem_take hc
        obtain ⟨d₀, hd₀, -, -, -, hde⟩ := mem_take hd
        rw [hce hct] at hch hs ⊢
        rw [hde hdt] at hdh hs ⊢
        exact h.single c₀ hc₀ d₀ hd₀ hch hdh hs

theorem mem_drop {c : Claim τ} : c ∈ (t.drop task).claims ↔ c ∈ t.claims ∧ c.task ≠ task := by
  simp [drop]

theorem knows_drop {other : τ} (h : t.knows other = false ∨ other = task) :
    (t.drop task).knows other = false := by
  by_contra hk
  obtain ⟨c, hc, rfl⟩ := knows_iff.mp (by simpa using hk)
  obtain ⟨hc, hne⟩ := mem_drop.mp hc
  obtain h | h := h
  · rw [knows_iff.mpr ⟨c, hc, rfl⟩] at h
    cases h
  · exact hne h

theorem Sound.drop (h : t.Sound) (task : τ) : (t.drop task).Sound where
  alone := h.alone.sublist (List.filter_sublist.map _)
  placed c hc := h.placed c (mem_drop.mp hc).1
  keyed := h.keyed
  single c hc d hd := h.single c (mem_drop.mp hc).1 d (mem_drop.mp hd).1

end Federation.LockTable
