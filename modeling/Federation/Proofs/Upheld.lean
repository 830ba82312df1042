import Federation.Proofs.Abide

namespace Federation

open Store

variable {names : Naming} {calm : Bool} {α : Type} {post : α → Standing → Prop}

def Claimed (locks : LockTable Nat) (p : Nat) (routine : Routine α) :
    Option (Aim × Known) → Prop
  | some (aim, _) => locks.Owns p aim.key
  | none => ∀ c ∈ locks.claims, c.task = p → ∃ next, routine = .acquire c.key next

/-- What is left of a routine abides from where it stands. One that was given up has no claims. -/
def Strand.Upheld (names : Naming) (calm : Bool) (post : α → Standing → Prop) (strand : Strand α)
    (p : Nat) (locks : LockTable Nat) (s : Store) : Prop :=
  match strand.left with
  | none => ∀ c ∈ locks.claims, c.task ≠ p
  | some routine => ∃ hold, Abides names calm post ⟨hold, strand.deeds, strand.changes⟩ routine ∧
      Fits calm hold s ∧ Claimed locks p routine hold

/-- All routines abide from where they stand, and no one else has claims. -/
structure Weave.Upheld (names : Naming) (calm : Bool) (post : α → Standing → Prop)
    (w : Weave α) : Prop where
  store : w.store.Sound names
  locks : w.locks.Sound
  placed : ∀ c ∈ w.locks.claims, c.task < w.strands.length
  strands : ∀ p (strand : Strand α), w.strands[p]? = some strand →
    strand.Upheld names calm post p w.locks w.store

theorem Claimed.congr {locks locks' : LockTable Nat} {p : Nat} {routine : Routine α}
    {hold : Option (Aim × Known)} (h : Claimed locks p routine hold)
    (hclaims : ∀ c, c.task = p → (c ∈ locks'.claims ↔ c ∈ locks.claims)) :
    Claimed locks' p routine hold := by
  cases hold with
  | some hold =>
    obtain ⟨c, hc, htask, hrest⟩ := h
    exact ⟨c, (hclaims c htask).mpr hc, htask, hrest⟩
  | none => exact fun c hc htask => h c ((hclaims c htask).mp hc) htask

theorem Claimed.of_not_acquire {locks : LockTable Nat} {p : Nat} {routine next : Routine α}
    {hold hold' : Option (Aim × Known)} (h : Claimed locks p routine hold)
    (hnot : ∀ key next, routine ≠ .acquire key next)
    (hsame : hold'.map (·.1) = hold.map (·.1)) : Claimed locks p next hold' := by
  cases hold with
  | some hold =>
    cases hold' with
    | some hold' =>
      have haim : hold'.1 = hold.1 := Option.some.inj hsame
      change locks.Owns p hold'.1.key
      rw [haim]
      exact h
    | none => cases hsame
  | none =>
    cases hold' with
    | some hold' => cases hsame
    | none =>
      intro c hc htask
      obtain ⟨next, he⟩ := h c hc htask
      exact absurd he (hnot _ _)

theorem Strand.Upheld.congr {strand : Strand α} {p : Nat} {locks locks' : LockTable Nat}
    {s s' : Store} (h : strand.Upheld names calm post p locks s)
    (hclaims : ∀ c, c.task = p → (c ∈ locks'.claims ↔ c ∈ locks.claims))
    (hfits : ∀ (aim : Aim) (known : Known), locks.Owns p aim.key →
      known.Holds calm (aim.ids s) → known.Holds calm (aim.ids s')) :
    strand.Upheld names calm post p locks' s' := by
  unfold Strand.Upheld at h ⊢
  cases hl : strand.left with
  | none =>
    rw [hl] at h
    exact fun c hc htask => h c ((hclaims c htask).mp hc) htask
  | some routine =>
    rw [hl] at h
    obtain ⟨hold, habides, hf, hclaimed⟩ := h
    refine ⟨hold, habides, ?_, hclaimed.congr hclaims⟩
    rintro ⟨aim, known⟩ rfl
    exact hfits aim known hclaimed (hf _ rfl)

theorem Weave.Upheld.update {w : Weave α} (h : w.Upheld names calm post) {p : Nat}
    {strand strand' : Strand α} (hp : w.strands[p]? = some strand) {locks : LockTable Nat}
    {s : Store} (hs : s.Sound names) (hlocks : locks.Sound)
    (hclaims : ∀ c, c.task ≠ p → (c ∈ locks.claims ↔ c ∈ w.locks.claims))
    (hfits : ∀ q (aim : Aim) (known : Known), q ≠ p → w.locks.Owns q aim.key →
      known.Holds calm (aim.ids w.store) → known.Holds calm (aim.ids s))
    (hstrand : strand'.Upheld names calm post p locks s) :
    Weave.Upheld names calm post ⟨w.strands.set p strand', locks, s⟩ := by
  refine ⟨hs, hlocks, fun c hc => ?_, fun q other hq => ?_⟩
  · rw [List.length_set]
    by_cases htask : c.task = p
    · rw [htask]
      exact (List.getElem?_eq_some_iff.mp hp).1
    · exact h.placed c ((hclaims c htask).mp hc)
  · by_cases hqp : q = p
    · subst hqp
      rw [Weave.getElem?_set hp] at hq
      cases hq
      exact hstrand
    · rw [List.getElem?_set_ne (Ne.symm hqp)] at hq
      exact (h.strands q other hq).congr (fun c htask => hclaims c (htask ▸ hqp))
        fun aim known => hfits q aim known hqp

theorem Weave.Upheld.relock {w : Weave α} (h : w.Upheld names calm post) {p : Nat}
    {strand : Strand α} (hp : w.strands[p]? = some strand) {locks : LockTable Nat}
    (hlocks : locks.Sound) (hclaims : ∀ c, c.task ≠ p → (c ∈ locks.claims ↔ c ∈ w.locks.claims))
    (hstrand : strand.Upheld names calm post p locks w.store) :
    Weave.Upheld names calm post { w with locks } := by
  have hupdate := h.update hp h.store hlocks hclaims (fun _ _ _ _ _ hk => hk) hstrand
  rwa [Weave.set_self hp] at hupdate

theorem Weave.Upheld.put {w : Weave α} (h : w.Upheld names calm post) {p : Nat}
    {strand strand' : Strand α} (hp : w.strands[p]? = some strand)
    (hstrand : strand'.Upheld names calm post p w.locks w.store) :
    (w.put p strand').Upheld names calm post :=
  h.update hp h.store h.locks (fun _ _ => Iff.rfl) (fun _ _ _ _ _ hk => hk) hstrand

theorem Weave.Upheld.routine {w : Weave α} (h : w.Upheld names calm post) {p : Nat}
    {strand : Strand α} (hp : w.strands[p]? = some strand) {routine : Routine α}
    (hl : strand.left = some routine) :
    ∃ hold, Abides names calm post ⟨hold, strand.deeds, strand.changes⟩ routine ∧
      Fits calm hold w.store ∧ Claimed w.locks p routine hold := by
  have hstrand := h.strands p strand hp
  unfold Strand.Upheld at hstrand
  rwa [hl] at hstrand

theorem Weave.Upheld.ask {w : Weave α} (h : w.Upheld names calm post) {p : Nat}
    {strand : Strand α} {key : String} {next : Routine α} (hp : w.strands[p]? = some strand)
    (hl : strand.left = some (.acquire key next)) (hk : w.locks.knows p = false) :
    Weave.Upheld names calm post { w with locks := w.locks.ask p key } := by
  obtain ⟨hold, habides, hfits, -⟩ := h.routine hp hl
  refine h.relock hp (h.locks.ask hk key) (fun _ => LockTable.mem_ask_other) ?_
  unfold Strand.Upheld
  rw [hl]
  refine ⟨hold, habides, hfits, ?_⟩
  obtain rfl : hold = none := habides.1
  intro c hc htask
  obtain ⟨slot, hclaims⟩ := w.locks.claims_ask p key
  rw [hclaims, List.mem_append, List.mem_singleton] at hc
  obtain hc | rfl := hc
  · rw [LockTable.knows_iff.mpr ⟨c, hc, htask⟩] at hk
    cases hk
  · exact ⟨next, rfl⟩

theorem Weave.Upheld.take {w : Weave α} (h : w.Upheld names calm post) {p : Nat}
    (hcan : w.locks.CanTake p) :
    Weave.Upheld names calm post { w with locks := w.locks.take p } := by
  obtain ⟨strand, hp⟩ : ∃ strand, w.strands[p]? = some strand := by
    obtain ⟨c, hc, rfl, -⟩ := hcan
    exact ⟨_, List.getElem?_eq_getElem (h.placed c hc)⟩
  refine h.relock hp (h.locks.take hcan) (fun _ => LockTable.mem_take_other) ?_
  have hstrand := h.strands p strand hp
  unfold Strand.Upheld at hstrand ⊢
  cases hl : strand.left with
  | none =>
    rw [hl] at hstrand
    intro c hc htask
    obtain ⟨c₀, hc₀, ht, -⟩ := LockTable.mem_take hc
    exact hstrand c₀ hc₀ (ht ▸ htask)
  | some routine =>
    rw [hl] at hstrand
    obtain ⟨hold, habides, hfits, hclaimed⟩ := hstrand
    refine ⟨hold, habides, hfits, ?_⟩
    cases hold with
    | some hold =>
      obtain ⟨c, hc, htask, hkey, -⟩ := hclaimed
      exact ⟨_, List.mem_map_of_mem hc, by simp [htask], by simp [htask, hkey], by simp [htask]⟩
    | none =>
      intro c hc htask
      obtain ⟨c₀, hc₀, ht, hk, -⟩ := LockTable.mem_take hc
      rw [hk]
      exact hclaimed c₀ hc₀ (ht ▸ htask)

theorem Weave.Upheld.enter {w : Weave α} (h : w.Upheld names calm post) {p : Nat}
    {strand : Strand α} {key : String} {next : Routine α} (hp : w.strands[p]? = some strand)
    (hl : strand.left = some (.acquire key next)) (hh : w.locks.holds p = true) :
    (w.put p { strand with left := some next }).Upheld names calm post := by
  obtain ⟨hold, ⟨hnone, aim, hkey, habides⟩, -, hclaimed⟩ := h.routine hp hl
  obtain rfl : hold = none := hnone
  refine h.put hp ⟨some (aim, .nothing), habides, ?_, ?_⟩
  · rintro hold ⟨⟩
    trivial
  · obtain ⟨c, hc, htask, hholding⟩ := LockTable.holds_iff.mp hh
    obtain ⟨next', he⟩ := hclaimed c hc htask
    injection he with hkey' _
    exact ⟨c, hc, htask, by rw [hkey, hkey'], hholding⟩

theorem Weave.Upheld.leave {w : Weave α} (h : w.Upheld names calm post) {p : Nat}
    {strand : Strand α} {key : String} {next : Routine α} (hp : w.strands[p]? = some strand)
    (hl : strand.left = some (.release key next)) :
    Weave.Upheld names calm post
      { w.put p { strand with left := some next } with locks := w.locks.drop p } := by
  obtain ⟨hold, ⟨-, habides⟩, -, -⟩ := h.routine hp hl
  refine h.update hp h.store (h.locks.drop p) (fun c htask => ?_) (fun _ _ _ _ _ hk => hk)
    ⟨none, habides, fun _ hm => (nomatch hm), fun c hc htask => ?_⟩
  · rw [LockTable.mem_drop, and_iff_left htask]
  · exact absurd htask (LockTable.mem_drop.mp hc).2

theorem Weave.Upheld.note {w : Weave α} (h : w.Upheld names calm post) {p : Nat}
    {strand : Strand α} {change : Change} {next : Routine α} (hp : w.strands[p]? = some strand)
    (hl : strand.left = some (.record change next)) :
    (w.put p { strand with left := some next, changes := strand.changes ++ [change] }).Upheld
      names calm post := by
  obtain ⟨hold, habides, hfits, hclaimed⟩ := h.routine hp hl
  exact h.put hp ⟨hold, habides, hfits, hclaimed.of_not_acquire (fun _ _ he => (nomatch he)) rfl⟩

theorem Weave.Upheld.refuse {w : Weave α} (h : w.Upheld names calm post) {p : Nat}
    {strand : Strand α} {c : Call} {next : c.Outcome → Routine α}
    (hp : w.strands[p]? = some strand) (hl : strand.left = some (.call c next)) :
    (w.put p { strand with
      left := some (next (.error (.transport .cancelled)))
      deeds := strand.deeds ++ [.refused c w.store] }).Upheld names calm post := by
  obtain ⟨hold, ⟨-, habides⟩, hfits, hclaimed⟩ := h.routine hp hl
  exact h.put hp ⟨hold, (habides w.store h.store hfits).2.1, hfits,
    hclaimed.of_not_acquire (fun _ _ he => (nomatch he)) rfl⟩

/-- What one routine creates is nothing that another holds the lock of, so that other knows as much
as before. -/
theorem Weave.Upheld.known {w : Weave α} (h : w.Upheld names calm post) {p q : Nat}
    {c : Call} {hold : Option (Aim × Known)} {next : c.Outcome → Routine α}
    (hclaimed : Claimed w.locks p (.call c next) hold)
    (hcalm : calm = true → c.isDelete = false)
    (hcreate : ∀ aim id, w.store.creation names c = some (aim, id) → hold = some (aim, .absent))
    (hne : q ≠ p) {aim : Aim} {known : Known}
    (hq : w.locks.Owns q aim.key)
    (hknown : known.Holds calm (aim.ids w.store)) :
    known.Holds calm (aim.ids (behaviour names c w.store).2) := by
  have hother : ∀ id, w.store.creation names c ≠ some (aim, id) := by
    intro id hc
    rw [hcreate aim id hc] at hclaimed
    exact hne (h.locks.exclusive hq hclaimed)
  refine hknown.of_sublist (ids_other hother) fun hc => ?_
  rw [ids_call (hcalm hc), added_other hother, List.append_nil]

theorem Weave.Upheld.call {w : Weave α} (h : w.Upheld names calm post) {p : Nat}
    {strand : Strand α} {c : Call} {next : c.Outcome → Routine α}
    (hp : w.strands[p]? = some strand) (hl : strand.left = some (.call c next)) :
    Weave.Upheld names calm post { w.put p { strand with
      left := some (next (behaviour names c w.store).1)
      deeds := strand.deeds ++ [.done names c w.store] } with
        store := (behaviour names c w.store).2 } := by
  obtain ⟨hold, ⟨hcalm, habides⟩, hfits, hclaimed⟩ := h.routine hp hl
  obtain ⟨hcreate, -, hold', hsame, hfits', hnext⟩ := habides w.store h.store hfits
  exact h.update hp (h.store.call c) h.locks (fun _ _ => Iff.rfl)
    (fun q aim known hne hq hknown => h.known hclaimed hcalm hcreate hne hq hknown)
    ⟨hold', hnext, hfits', hclaimed.of_not_acquire (fun _ _ he => (nomatch he)) hsame⟩

/-- Whichever routine goes on, all still abide. -/
theorem Weave.Upheld.step {w w' : Weave α} (h : w.Upheld names calm post)
    (hstep : w.Step names w') : w'.Upheld names calm post := by
  cases hstep with
  | ask hp hl hk => exact h.ask hp hl hk
  | take hcan => exact h.take hcan
  | enter hp hl hh => exact h.enter hp hl hh
  | leave hp hl => exact h.leave hp hl
  | note hp hl => exact h.note hp hl
  | call hp hl _ => exact h.call hp hl
  | refuse hp hl _ => exact h.refuse hp hl

theorem Weave.Upheld.move {w w' : Weave α} (h : w.Upheld names calm post)
    (hmove : w.Move names w') : w'.Upheld names calm post := by
  cases hmove with
  | step hstep => exact h.step hstep
  | cancel hp =>
    have hstrand := h.strands _ _ hp
    exact h.put hp hstrand
  | quit hp =>
    refine h.update hp h.store (h.locks.drop _) (fun c htask => ?_) (fun _ _ _ _ _ hk => hk) ?_
    · rw [LockTable.mem_drop, and_iff_left htask]
    · exact fun c hc => (LockTable.mem_drop.mp hc).2

theorem Weave.Upheld.moves {w w' : Weave α} (h : w.Upheld names calm post)
    (hmoves : Relation.ReflTransGen (Weave.Move names) w w') : w'.Upheld names calm post := by
  induction hmoves with
  | refl => exact h
  | tail _ hmove ih => exact ih.move hmove

theorem Weave.Upheld.done {w : Weave α} (h : w.Upheld names calm post) {strand : Strand α}
    (hs : strand ∈ w.strands) {a : α} (hl : strand.left = some (.done a)) :
    ∃ hold, post a ⟨hold, strand.deeds, strand.changes⟩ := by
  obtain ⟨p, hp⟩ := List.getElem?_of_mem hs
  obtain ⟨hold, hpost, -⟩ := h.routine hp hl
  exact ⟨hold, hpost⟩

theorem Weave.Upheld.join {w : Weave α} (h : w.Upheld names calm post) {routine : Routine α}
    (hr : Abides names calm post ⟨none, [], []⟩ routine) :
    Weave.Upheld names calm post { w with strands := w.strands ++ [.start routine] } := by
  refine ⟨h.store, h.locks, fun c hc => ?_, fun p strand hp => ?_⟩
  · have hlt := h.placed c hc
    rw [List.length_append, List.length_singleton]
    omega
  · change (w.strands ++ [.start routine])[p]? = some strand at hp
    rw [List.getElem?_append] at hp
    split at hp
    · exact h.strands p strand hp
    · rename_i hge
      obtain rfl : strand = .start routine := by
        simpa using List.mem_of_getElem? hp
      refine ⟨none, hr, fun _ hm => (nomatch hm), fun c hc htask => ?_⟩
      exact absurd (h.placed c hc) (htask ▸ hge)

theorem Weave.upheld_start {routines : List (Routine α)} {locks : LockTable Nat} {s : Store}
    (hlocks : locks.Sound) (hfree : locks.claims = []) (hs : s.Sound names)
    (hr : ∀ routine ∈ routines, Abides names calm post ⟨none, [], []⟩ routine) :
    (start routines locks s).Upheld names calm post := by
  refine ⟨hs, hlocks, fun c hc => ?_, fun p strand hp => ?_⟩
  · change c ∈ locks.claims at hc
    rw [hfree] at hc
    cases hc
  · obtain ⟨routine, hm, rfl⟩ := List.mem_map.mp (List.mem_of_getElem? hp)
    refine ⟨none, hr routine hm, fun _ hm => (nomatch hm), fun c hc => ?_⟩
    change c ∈ locks.claims at hc
    rw [hfree] at hc
    cases hc

theorem Weave.Upheld.ids_step {w w' : Weave α} (h : w.Upheld names calm post)
    (hstep : w.Step names w') (aim : Aim) :
    (aim.ids w'.store).Sublist (aim.ids w.store) ∨
      aim.ids w.store = [] ∧ ∃ id, aim.ids w'.store = [id] := by
  cases hstep with
  | @call p strand c next hp hl _ =>
    obtain ⟨hold, ⟨-, habides⟩, hfits, -⟩ := h.routine hp hl
    obtain ⟨hcreate, -⟩ := habides w.store h.store hfits
    by_cases hc : ∃ id, w.store.creation names c = some (aim, id)
    · obtain ⟨id, hc⟩ := hc
      have habsent : aim.ids w.store = [] := hfits _ (hcreate aim id hc)
      right
      exact ⟨habsent, id, by rw [ids_created hc, habsent, List.nil_append]⟩
    · exact .inl (ids_other (not_exists.mp hc))
  | ask hp hl hk | take hcan | enter hp hl hh | leave hp hl | note hp hl | refuse hp hl _ =>
    exact .inl (.refl _)

end Federation
