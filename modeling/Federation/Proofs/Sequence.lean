import Federation.Proofs.Report
import Federation.Proofs.Unique

namespace Federation

open Store

namespace Weave

variable {α : Type} {names : Naming}

def bare (w : Weave α) : List (Option (Routine α) × List Deed × List Change) :=
  w.strands.map fun strand => (strand.left, strand.deeds, strand.changes)

theorem strand_of_bare {w : Weave α} {p : Nat} {left : Option (Routine α)} {deeds : List Deed}
    {changes : List Change} (h : w.bare[p]? = some (left, deeds, changes)) :
    ∃ cancelled, w.strands[p]? = some ⟨left, cancelled, deeds, changes⟩ := by
  rw [bare, List.getElem?_map] at h
  obtain ⟨strand, hs, he⟩ := Option.map_eq_some_iff.mp h
  cases he
  exact ⟨strand.cancelled, hs⟩

theorem bare_set (w : Weave α) (p : Nat) (strand : Strand α) (locks : LockTable Nat) (s : Store) :
    bare ⟨w.strands.set p strand, locks, s⟩ =
      w.bare.set p (strand.left, strand.deeds, strand.changes) :=
  List.map_set

theorem bare_of_set {w w' : Weave α} {p : Nat}
    {x y : Option (Routine α) × List Deed × List Change} (hx : w.bare[p]? = some x)
    (hw : w'.bare = w.bare.set p y) : w'.bare[p]? = some y := by
  rw [hw]
  exact List.getElem?_set_self (List.getElem?_eq_some_iff.mp hx).1

/-- The store and the tokens are as rehearsed, nothing but cancellation is to come, and only the
routine at the given place has a lock. -/
structure Solo (p : Nat) (w : Weave α) (r : RehearsedStore) : Prop where
  store : w.store = r.store
  cancelled : ∀ strand ∈ w.strands, strand.cancelled = r.cancelled
  cut : ∀ x ∈ r.disturbances, x.error = none
  locks : w.locks.Sound
  claims : ∀ c ∈ w.locks.claims, c.task = p ∧ c.holding = true

theorem moves_cancel (w : Weave α) :
    Relation.ReflTransGen (Move names) w
      { w with strands := w.strands.map fun strand => { strand with cancelled := true } } := by
  suffices ∀ rest before : List (Strand α), Relation.ReflTransGen (Move names)
      ⟨before ++ rest, w.locks, w.store⟩
      ⟨before ++ rest.map fun strand => { strand with cancelled := true }, w.locks, w.store⟩ from
    this w.strands []
  intro rest
  induction rest with
  | nil => exact fun before => .refl
  | cons strand rest ih =>
    intro before
    have hp : (⟨before ++ strand :: rest, w.locks, w.store⟩ : Weave α).strands[before.length]? =
        some strand := by simp
    have hcancel : Move names ⟨before ++ strand :: rest, w.locks, w.store⟩
        ⟨before ++ { strand with cancelled := true } :: rest, w.locks, w.store⟩ := by
      have h := @Move.cancel α names _ _ _ hp
      rw [put, List.set_append_right _ _ (Nat.le_refl _), Nat.sub_self, List.set_cons_zero] at h
      exact h
    have hrest := ih (before ++ [{ strand with cancelled := true }])
    rw [← List.append_cons, ← List.append_cons] at hrest
    exact .head hcancel hrest

namespace Solo

variable {p : Nat} {w : Weave α} {r : RehearsedStore}

theorem cancel (h : Solo p w r) :
    ∃ w', Relation.ReflTransGen (Move names) w w' ∧ w'.Solo p { r with cancelled := true } ∧
      w'.bare = w.bare := by
  refine ⟨_, moves_cancel w, ⟨h.store, fun strand hs => ?_, h.cut, h.locks, h.claims⟩, ?_⟩
  · obtain ⟨strand, -, rfl⟩ := List.mem_map.mp hs
    rfl
  · simp [bare]

theorem again (h : Solo p w r) (calls : List Call) : Solo p w { r with calls } :=
  ⟨h.store, h.cancelled, h.cut, h.locks, h.claims⟩

theorem set (h : Solo p w r) {strand strand' : Strand α} {locks : LockTable Nat} {s : Store}
    {r' : RehearsedStore} (hp : w.strands[p]? = some strand)
    (hc : strand'.cancelled = strand.cancelled) (hlocks : locks.Sound)
    (hclaims : ∀ c ∈ locks.claims, c.task = p ∧ c.holding = true) (hs : s = r'.store)
    (hcancelled : r'.cancelled = r.cancelled) (hcut : r'.disturbances = r.disturbances) :
    Solo p ⟨w.strands.set p strand', locks, s⟩ r' := by
  refine ⟨hs, fun other ho => ?_, hcut ▸ h.cut, hlocks, hclaims⟩
  rw [hcancelled]
  obtain ho | rfl := List.mem_or_eq_of_mem_set ho
  · exact h.cancelled other ho
  · rw [hc]
    exact h.cancelled strand (List.mem_of_getElem? hp)

theorem perform (h : Solo p w r) {c : Call} {next : c.Outcome → Routine α} {deeds : List Deed}
    {changes : List Change} (hp : w.bare[p]? = some (some (.call c next), deeds, changes)) :
    ∃ w' d, Relation.ReflTransGen (Move names) w w' ∧ w'.Solo p (r.perform names c).2 ∧
      d.call = c ∧
      w'.bare = w.bare.set p (some (next (r.perform names c).1), deeds ++ [d], changes) := by
  obtain ⟨cancelled, hs⟩ := strand_of_bare hp
  have hsame := h.cancelled _ (List.mem_of_getElem? hs)
  unfold RehearsedStore.perform
  cases hc : r.cancelled with
  | true =>
    refine ⟨_, .refused c w.store, .single (.step (.refuse hs rfl (hsame.trans hc))), ?_, rfl, ?_⟩
    · exact h.set hs rfl h.locks h.claims h.store rfl rfl
    · exact bare_set ..
  | false =>
    refine ⟨_, .done names c w.store, .single (.step (.call hs rfl (hsame.trans hc))), ?_, rfl, ?_⟩
    · rw [h.store]
      exact h.set hs rfl h.locks h.claims rfl hc.symm rfl
    · rw [h.store]
      exact bare_set ..

theorem answer (h : Solo p w r) {c : Call} {next : c.Outcome → Routine α} {deeds : List Deed}
    {changes : List Change} (hp : w.bare[p]? = some (some (.call c next), deeds, changes)) :
    ∃ w' d, Relation.ReflTransGen (Move names) w w' ∧
      w'.Solo p (RehearsedStore.behaviour names c r).2 ∧ d.call = c ∧
      (RehearsedStore.behaviour names c r).2.calls = r.calls ++ [c] ∧
      w'.bare = w.bare.set p
        (some (next (RehearsedStore.behaviour names c r).1), deeds ++ [d], changes) := by
  have hcalls : ∀ r : RehearsedStore, (r.perform names c).2.calls = r.calls := by
    intro r
    unfold RehearsedStore.perform
    split <;> rfl
  have hagain := h.again (r.calls ++ [c])
  unfold RehearsedStore.behaviour
  cases hx : r.disturbance? c with
  | none =>
    obtain ⟨w', d, hmoves, hsolo, hd, hbare⟩ := hagain.perform hp
    exact ⟨w', d, hmoves, hsolo, hd, hcalls _, hbare⟩
  | some x =>
    obtain ⟨kind, nth, after, error⟩ := x
    obtain rfl : error = none := h.cut _ (List.mem_of_find?_eq_some hx)
    cases after with
    | false =>
      obtain ⟨w₁, hcancel, hsolo₁, hbare₁⟩ := hagain.cancel
      rw [← hbare₁] at hp
      obtain ⟨w', d, hmoves, hsolo, hd, hbare⟩ := hsolo₁.perform hp
      rw [hbare₁] at hbare
      exact ⟨w', d, hcancel.trans hmoves, hsolo, hd, hcalls _, hbare⟩
    | true =>
      obtain ⟨w₁, d, hmoves, hsolo₁, hd, hbare₁⟩ := hagain.perform hp
      obtain ⟨w', hcancel, hsolo, hbare⟩ := hsolo₁.cancel
      exact ⟨w', d, hmoves.trans hcancel, hsolo, hd, hcalls _, hbare.trans hbare₁⟩

theorem acquire (h : Solo p w r) {key : String} {next : Routine α} {deeds : List Deed}
    {changes : List Change} (hp : w.bare[p]? = some (some (.acquire key next), deeds, changes)) :
    ∃ w', Relation.ReflTransGen (Move names) w w' ∧ w'.Solo p r ∧
      w'.bare = w.bare.set p (some next, deeds, changes) := by
  obtain ⟨cancelled, hs⟩ := strand_of_bare hp
  cases hk : w.locks.knows p with
  | true =>
    obtain ⟨c, hc, htask⟩ := LockTable.knows_iff.mp hk
    have hholds : w.locks.holds p = true :=
      LockTable.holds_iff.mpr ⟨c, hc, htask, (h.claims c hc).2⟩
    refine ⟨_, .single (.step (.enter hs rfl hholds)), ?_, bare_set ..⟩
    exact h.set hs rfl h.locks h.claims h.store rfl rfl
  | false =>
    have hnone : w.locks.claims = [] := by
      refine List.eq_nil_iff_forall_not_mem.mpr fun c hc => ?_
      rw [LockTable.knows_iff.mpr ⟨c, hc, (h.claims c hc).1⟩] at hk
      cases hk
    obtain ⟨slot, hclaims⟩ := w.locks.claims_ask p key
    rw [hnone, List.nil_append] at hclaims
    have hcan : (w.locks.ask p key).CanTake p := by
      refine ⟨⟨p, key, slot, false⟩, by rw [hclaims]; exact List.mem_singleton_self _, rfl, ?_⟩
      simp [LockTable.held, hclaims]
    have htaken : ((w.locks.ask p key).take p).claims = [⟨p, key, slot, true⟩] := by
      simp [LockTable.take, hclaims]
    have hholds : ((w.locks.ask p key).take p).holds p = true := by
      simp [LockTable.holds, htaken]
    refine ⟨_, .head (.step (.ask hs rfl hk)) (.head (.step (.take hcan))
      (.single (.step (.enter hs rfl hholds)))), ?_, bare_set ..⟩
    refine h.set hs rfl ((h.locks.ask hk key).take hcan) (fun c hc => ?_) h.store rfl rfl
    rw [htaken, List.mem_singleton] at hc
    rw [hc]
    exact ⟨rfl, rfl⟩

theorem release (h : Solo p w r) {key : String} {next : Routine α} {deeds : List Deed}
    {changes : List Change} (hp : w.bare[p]? = some (some (.release key next), deeds, changes)) :
    ∃ w', Relation.ReflTransGen (Move names) w w' ∧ w'.Solo p r ∧
      w'.bare = w.bare.set p (some next, deeds, changes) := by
  obtain ⟨cancelled, hs⟩ := strand_of_bare hp
  refine ⟨_, .single (.step (.leave hs rfl)), ?_, bare_set ..⟩
  refine h.set hs rfl (h.locks.drop p) (fun c hc => ?_) h.store rfl rfl
  exact h.claims c (LockTable.mem_drop.mp hc).1

theorem record (h : Solo p w r) {change : Change} {next : Routine α} {deeds : List Deed}
    {changes : List Change} (hp : w.bare[p]? = some (some (.record change next), deeds, changes)) :
    ∃ w', Relation.ReflTransGen (Move names) w w' ∧ w'.Solo p r ∧
      w'.bare = w.bare.set p (some next, deeds, changes ++ [change]) := by
  obtain ⟨cancelled, hs⟩ := strand_of_bare hp
  refine ⟨_, .single (.step (.note hs rfl)), ?_, bare_set ..⟩
  exact h.set hs rfl h.locks h.claims h.store rfl rfl

/-- What a routine does alone, it does by moves that no other takes part in. -/
theorem run {routine : Routine α} (h : Solo p w r) {deeds : List Deed} {changes : List Change}
    (hp : w.bare[p]? = some (some routine, deeds, changes)) :
    let out := routine.run (RehearsedStore.behaviour names) r
    ∃ w' more, Relation.ReflTransGen (Move names) w w' ∧ w'.Solo p out.2.2 ∧
      out.2.2.calls = r.calls ++ more.map (·.call) ∧
      w'.bare = w.bare.set p (some (.done out.1), deeds ++ more, changes ++ out.2.1) := by
  induction routine generalizing w r deeds changes with
  | done a =>
    refine ⟨w, [], .refl, h, by simp [Routine.run], ?_⟩
    simp only [Routine.run, List.append_nil]
    obtain ⟨hlt, he⟩ := List.getElem?_eq_some_iff.mp hp
    rw [← he, List.set_getElem_self]
  | call c next ih =>
    obtain ⟨w₁, d, hmoves, hsolo, rfl, hcalls, hbare⟩ := h.answer hp
    obtain ⟨w₂, more, hmoves', hsolo', hcalls', hbare'⟩ := ih _ hsolo (bare_of_set hp hbare)
    refine ⟨w₂, d :: more, hmoves.trans hmoves', hsolo', ?_, ?_⟩
    · rw [hcalls, List.append_assoc] at hcalls'
      exact hcalls'
    · rw [hbare, List.set_set, List.append_assoc] at hbare'
      exact hbare'
  | acquire key next ih =>
    obtain ⟨w₁, hmoves, hsolo, hbare⟩ := h.acquire hp
    obtain ⟨w₂, more, hmoves', hsolo', hcalls, hbare'⟩ := ih hsolo (bare_of_set hp hbare)
    rw [hbare, List.set_set] at hbare'
    exact ⟨w₂, more, hmoves.trans hmoves', hsolo', hcalls, hbare'⟩
  | release key next ih =>
    obtain ⟨w₁, hmoves, hsolo, hbare⟩ := h.release hp
    obtain ⟨w₂, more, hmoves', hsolo', hcalls, hbare'⟩ := ih hsolo (bare_of_set hp hbare)
    rw [hbare, List.set_set] at hbare'
    exact ⟨w₂, more, hmoves.trans hmoves', hsolo', hcalls, hbare'⟩
  | record change next ih =>
    obtain ⟨w₁, hmoves, hsolo, hbare⟩ := h.record hp
    obtain ⟨w₂, more, hmoves', hsolo', hcalls, hbare'⟩ := ih hsolo (bare_of_set hp hbare)
    rw [hbare, List.set_set, List.append_assoc] at hbare'
    exact ⟨w₂, more, hmoves.trans hmoves', hsolo', hcalls, hbare'⟩

theorem next (h : Solo p w r) {calm : Bool} (hup : w.Upheld names calm fun _ st => st.hold = none)
    {a : α} {deeds : List Deed} {changes : List Change}
    (hp : w.bare[p]? = some (some (.done a), deeds, changes)) (q : Nat) : Solo q w r := by
  obtain ⟨cancelled, hs⟩ := strand_of_bare hp
  have hnone := hup.claims_of_done hs (by simp)
  exact ⟨h.store, h.cancelled, h.cut, h.locks,
    fun c hc => absurd (h.claims c hc).1 (hnone c hc)⟩

end Solo

end Weave

variable {names : Naming}

def IdentityOutcome.Of (outcome : IdentityOutcome)
    (x : Option (Routine (Except ReconcileError Unit)) × List Deed × List Change) : Prop :=
  x.1 = some (.done outcome.result) ∧ x.2.2 = outcome.changes

theorem Order.runEach_moves {o : Order} {identities : List WorkloadIdentity}
    {w : Weave (Except ReconcileError Unit)} {r : RehearsedStore}
    {before : List (Option (Routine (Except ReconcileError Unit)) × List Deed × List Change)}
    (hup : w.Upheld names false fun _ st => st.hold = none) (h : w.Solo before.length r)
    (hbare : w.bare = before ++ identities.map fun i => (some (o.attempt i).run, [], [])) :
    let out := o.runEach (RehearsedStore.behaviour names) identities r
    ∃ w' ran, Relation.ReflTransGen (Weave.Move names) w w' ∧ w'.store = out.2.store ∧
      out.2.calls = r.calls ++ (ran.flatMap (·.2.1)).map (·.call) ∧
      w'.bare = before ++ ran ∧ List.Forall₂ IdentityOutcome.Of out.1 ran := by
  -- Each identity finds the locks free, since the one before it is done.
  induction identities generalizing w r before with
  | nil => exact ⟨w, [], .refl, h.store, by simp [runEach], hbare, .nil⟩
  | cons identity rest ih =>
    have hp : w.bare[before.length]? = some (some (o.attempt identity).run, [], []) := by
      simp [hbare]
    obtain ⟨w₁, deeds, hmoves, hsolo, hcalls, hbare₁⟩ := h.run hp
    have hup₁ := hup.moves hmoves
    have hnext := hsolo.next hup₁ (Weave.bare_of_set hp hbare₁)
    rw [hbare, List.map_cons, List.set_append_right _ _ (Nat.le_refl _), Nat.sub_self,
      List.set_cons_zero, List.append_cons] at hbare₁
    obtain ⟨w₂, ran, hmoves', hstore, hcalls', hbare₂, hran⟩ := ih hup₁ (hnext _) hbare₁
    rw [← List.append_cons] at hbare₂
    refine ⟨w₂, _ :: ran, hmoves.trans hmoves', hstore, ?_, hbare₂, .cons ⟨rfl, rfl⟩ hran⟩
    rw [hcalls, List.append_assoc, ← List.map_append] at hcalls'
    exact hcalls'

/-- Whenever the token is cancelled, what an order does to one identity after another is a run of
its weave: the outcomes are those of the routines, and the calls those that they made. -/
theorem Order.runEach_woven (hn : names.Distinct) (o : Order) {r : RehearsedStore}
    (hs : r.store.Sound names) (hcut : ∀ x ∈ r.disturbances, x.error = none)
    (hc : r.cancelled = false) :
    let out := o.runEach (RehearsedStore.behaviour names) o.identities r
    ∃ w, Relation.ReflTransGen (Weave.Move names) (o.weave r.store) w ∧ w.store = out.2.store ∧
      out.2.calls = r.calls ++ (w.strands.flatMap (·.deeds)).map (·.call) ∧
      List.Forall₂ (fun outcome strand => strand.outcome? outcome.displayName = some outcome)
        out.1 w.strands := by
  have hup : (o.weave r.store).Upheld names false fun _ st => st.hold = none :=
    Order.upheld_weave hs fun identity => Errand.abides hn (.attend o identity) nofun
  have hsolo : (o.weave r.store).Solo 0 r := by
    refine ⟨rfl, fun strand hm => ?_, hcut, LockTable.sound_empty, fun c hm => (nomatch hm)⟩
    obtain ⟨routine, -, rfl⟩ := List.mem_map.mp hm
    exact hc.symm
  have hbare : (o.weave r.store).bare =
      o.identities.map fun i => (some (o.attempt i).run, [], []) := by
    simp [Weave.bare, Order.weave, Weave.start, Strand.start]
  obtain ⟨w, ran, hmoves, hstore, hcalls, hran, hof⟩ :=
    @Order.runEach_moves names o o.identities _ r [] hup hsolo hbare
  rw [List.nil_append] at hran
  subst hran
  refine ⟨w, hmoves, hstore, ?_, ?_⟩
  · rw [hcalls, Weave.bare, List.flatMap_map]
  · refine (List.forall₂_map_right_iff.mp hof).imp fun outcome strand h => ?_
    obtain ⟨hleft, hchanges⟩ := h
    unfold Strand.outcome?
    rw [Strand.result?_eq_some.mpr hleft, Option.map_some, show strand.changes = _ from hchanges]

theorem Order.runEach_accounts (hn : names.Distinct) {o : Order} (hreal : o.dryRun = false)
    {r : RehearsedStore} (hs : r.store.Sound names) (hcut : ∀ x ∈ r.disturbances, x.error = none)
    (hc : r.cancelled = false) :
    let out := o.runEach (RehearsedStore.behaviour names) o.identities r
    ∃ deeds : List (List Deed), out.2.calls = r.calls ++ deeds.flatten.map (·.call) ∧
      List.Forall₂ (fun outcome deeds =>
        recorded outcome.changes = performed deeds ↔ Unbroken deeds) out.1 deeds := by
  obtain ⟨w, hw, -, hcalls, hout⟩ := o.runEach_woven hn hs hcut hc
  refine ⟨w.strands.map (·.deeds), ?_, List.forall₂_map_right_iff.mpr ?_⟩
  · rw [hcalls, List.flatMap_def]
  obtain ⟨hlength, hout⟩ := List.forall₂_iff_zip.mp hout
  refine List.forall₂_iff_zip.mpr ⟨hlength, fun hm => ?_⟩
  have hstrand := (List.of_mem_zip hm).2
  have ho := hout hm
  obtain ⟨hl, hchanges⟩ := outcome_eq_some ho
  rw [hchanges]
  obtain ⟨hwhole, hequal⟩ | ⟨-, hbroken, id, hshort⟩ := order_accounts hn hs hreal hw hstrand hl
  · exact iff_of_true hequal hwhole
  · refine iff_of_false (fun hequal => ?_) hbroken
    rw [← hequal] at hshort
    simp at hshort

end Federation
