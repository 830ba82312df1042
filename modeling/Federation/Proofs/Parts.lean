import Federation.Proofs.Crew
import Federation.Proofs.Scope

namespace Federation

open Store

variable {names : Naming} {α : Type} {post : α → Prop}

structure Part (α : Type) where
  name : String
  routine : Routine α

/-- The rest of the routine would, alone from here, come to what all of it would have come to. -/
structure Strand.Keeps (names : Naming) (post : α → Prop) (part : Part α) (s t : Store)
    (strand : Strand α) (m : Routine α) : Prop where
  left : strand.left = some m
  live : strand.cancelled = false
  keepsTo : m.KeepsTo names part.name post
  result : (m.run (behaviour names) t).1 = (part.routine.run (behaviour names) s).1
  changes : strand.changes ++ (m.run (behaviour names) t).2.1 =
    (part.routine.run (behaviour names) s).2.1
  store : Alike names (· == part.name) (m.run (behaviour names) t).2.2
    (part.routine.run (behaviour names) s).2.2

/-- Each routine does its part of what is to be done from a store, and there is nothing else that
is done. -/
structure Weave.Parted (names : Naming) (post : α → Prop) (parts : List (Part α)) (s : Store)
    (w : Weave α) : Prop where
  traced : w.store.Traced names
  length : w.strands.length = parts.length
  strands : ∀ (p : Nat) (strand : Strand α) (part : Part α), w.strands[p]? = some strand →
    parts[p]? = some part → ∃ m, strand.Keeps names post part s w.store m
  rest : ∀ P : String → Bool, (∀ part ∈ parts, P part.name = false) → Alike names P w.store s

theorem Strand.Keeps.congr (hn : names.Distinct) {part : Part α} {s t t' : Store}
    {strand : Strand α} {m : Routine α} (h : strand.Keeps names post part s t m)
    (ht : t.Traced names) (ht' : t'.Traced names) (halike : Alike names (· == part.name) t' t) :
    strand.Keeps names post part s t' m := by
  obtain ⟨hresult, hchanges, hstore⟩ :=
    h.keepsTo.run_alike hn (P := (· == part.name)) (beq_self_eq_true part.name) ht' ht halike
  exact ⟨h.left, h.live, h.keepsTo, hresult.trans h.result, by rw [hchanges, h.changes],
    hstore.trans h.store⟩

namespace Weave

variable {parts : List (Part α)} {s : Store} {w w' : Weave α}

theorem parted_start (hs : s.Traced names)
    (hparts : ∀ part ∈ parts, part.routine.KeepsTo names part.name post) (locks : LockTable Nat) :
    (start (parts.map (·.routine)) locks s).Parted names post parts s := by
  refine ⟨hs, by simp [start], fun p strand part hp hpart => ⟨part.routine, ?_⟩,
    fun _ _ => .refl s⟩
  change ((parts.map (·.routine)).map Strand.start)[p]? = some strand at hp
  rw [List.getElem?_map, List.getElem?_map, hpart] at hp
  cases hp
  exact ⟨rfl, rfl, hparts part (List.mem_of_getElem? hpart), rfl, rfl, .refl _⟩

theorem Parted.update (hn : names.Distinct) (hnames : (parts.map (·.name)).Nodup)
    (h : w.Parted names post parts s) {p : Nat} {strand strand' : Strand α} {part : Part α}
    (hp : w.strands[p]? = some strand) (hpart : parts[p]? = some part) {t : Store}
    (ht : t.Traced names) (hothers : ∀ P : String → Bool, P part.name = false →
      Alike names P t w.store) {m : Routine α} (hstrand : strand'.Keeps names post part s t m)
    (locks : LockTable Nat) :
    Parted names post parts s ⟨w.strands.set p strand', locks, t⟩ := by
  refine ⟨ht, List.length_set.trans h.length, fun q other part' hq hpart' => ?_, fun P hP => ?_⟩
  · by_cases hqp : q = p
    · subst hqp
      rw [Weave.getElem?_set hp] at hq
      rw [hpart] at hpart'
      cases hq
      cases hpart'
      exact ⟨m, hstrand⟩
    · rw [List.getElem?_set_ne (Ne.symm hqp)] at hq
      obtain ⟨m', hkeeps⟩ := h.strands q other part' hq hpart'
      have hne : part.name ≠ part'.name := by
        intro he
        have hlt : q < (parts.map (·.name)).length := by
          rw [List.length_map]
          exact (List.getElem?_eq_some_iff.mp hpart').1
        refine hqp ((List.getElem?_inj hlt hnames).mp ?_)
        rw [List.getElem?_map, List.getElem?_map, hpart, hpart', Option.map_some,
          Option.map_some, he]
      exact ⟨m', hkeeps.congr hn h.traced ht (hothers _ (beq_eq_false_iff_ne.mpr hne))⟩
  · exact (hothers P (hP part (List.mem_of_getElem? hpart))).trans (h.rest P hP)

theorem Parted.step (hn : names.Distinct) (hnames : (parts.map (·.name)).Nodup)
    (h : w.Parted names post parts s) (hstep : w.Step names w') :
    w'.Parted names post parts s := by
  have hkeeps : ∀ {p : Nat} {strand : Strand α} {m : Routine α}, w.strands[p]? = some strand →
      strand.left = some m → ∃ part, parts[p]? = some part ∧
        strand.Keeps names post part s w.store m := by
    intro p strand m hp hl
    have hlt := (List.getElem?_eq_some_iff.mp hp).1
    rw [h.length] at hlt
    have hpart := List.getElem?_eq_getElem hlt
    obtain ⟨m', hm'⟩ := h.strands p strand _ hp hpart
    obtain rfl : m = m' := Option.some.inj (hl.symm.trans hm'.left)
    exact ⟨_, hpart, hm'⟩
  cases hstep with
  | ask hp hl hk => exact ⟨h.traced, h.length, h.strands, h.rest⟩
  | take hc => exact ⟨h.traced, h.length, h.strands, h.rest⟩
  | @enter p strand key next hp hl hh =>
    obtain ⟨part, hpart, hk⟩ := hkeeps hp hl
    have hnext : Strand.Keeps names post part s w.store { strand with left := some next } next :=
      ⟨rfl, hk.live, hk.keepsTo, hk.result, hk.changes, hk.store⟩
    exact h.update hn hnames hp hpart h.traced (fun _ _ => .refl _) hnext _
  | @leave p strand key next hp hl =>
    obtain ⟨part, hpart, hk⟩ := hkeeps hp hl
    have hnext : Strand.Keeps names post part s w.store { strand with left := some next } next :=
      ⟨rfl, hk.live, hk.keepsTo, hk.result, hk.changes, hk.store⟩
    exact h.update hn hnames hp hpart h.traced (fun _ _ => .refl _) hnext _
  | @note p strand change next hp hl =>
    obtain ⟨part, hpart, hk⟩ := hkeeps hp hl
    have hnext : Strand.Keeps names post part s w.store
        { strand with left := some next, changes := strand.changes ++ [change] } next := by
      refine ⟨rfl, hk.live, hk.keepsTo, hk.result, ?_, hk.store⟩
      rw [← hk.changes, List.append_assoc]
      rfl
    exact h.update hn hnames hp hpart h.traced (fun _ _ => .refl _) hnext _
  | @call p strand c next hp hl hc =>
    obtain ⟨part, hpart, hk⟩ := hkeeps hp hl
    have hnext : Strand.Keeps names post part s (behaviour names c w.store).2
        { strand with
          left := some (next (behaviour names c w.store).1)
          deeds := strand.deeds ++ [.done names c w.store] } (next (behaviour names c w.store).1) :=
      ⟨rfl, hk.live, hk.keepsTo.2 _ h.traced, hk.result, hk.changes, hk.store⟩
    exact h.update hn hnames hp hpart (h.traced.call c)
      (fun P hP => alike_call hn h.traced hP hk.keepsTo.1) hnext _
  -- The token of a routine that does its part is live.
  | refuse hp hl hc =>
    obtain ⟨part, hpart, hk⟩ := hkeeps hp hl
    rw [hk.live] at hc
    cases hc

theorem Parted.done (h : w.Parted names post parts s) {p : Nat} {strand : Strand α}
    {part : Part α} (hp : w.strands[p]? = some strand) (hpart : parts[p]? = some part) {a : α}
    (hl : strand.left = some (.done a)) :
    a = (part.routine.run (behaviour names) s).1 ∧
      strand.changes = (part.routine.run (behaviour names) s).2.1 ∧
      Alike names (· == part.name) w.store (part.routine.run (behaviour names) s).2.2 := by
  obtain ⟨m, hk⟩ := h.strands p strand part hp hpart
  obtain rfl : Routine.done a = m := Option.some.inj (hl.symm.trans hk.left)
  exact ⟨hk.result, by rw [← hk.changes]; exact (List.append_nil _).symm, hk.store⟩

end Weave

end Federation
