import Mathlib.Data.List.Basic
import Federation.Proofs.Weave

namespace Federation

open Store

namespace Routine

variable {α : Type}

def Lockless : Routine α → Prop
  | .done _ => True
  | .call _ next => ∀ r, (next r).Lockless
  | .acquire _ _ | .release _ _ => False
  | .record _ next => next.Lockless

theorem Lockless.bind {β : Type} {m : Routine α} {f : α → Routine β} (hm : m.Lockless)
    (hf : ∀ a, (f a).Lockless) : (m.bind f).Lockless := by
  induction m with
  | done a => exact hf a
  | call c next ih => exact fun r => ih r (hm r)
  | acquire | release => cases hm
  | record change next ih => exact ih hm

def under (key : String) (body : Routine α) : Routine α :=
  body.bind fun a => .release key (.done a)

def locked (key : String) (body : Routine α) : Routine α := .acquire key (body.under key)

/-- All that the routine does is done under the lock of one key. -/
def Guarded (key : String) (m : Routine α) : Prop :=
  ∃ body : Routine α, body.Lockless ∧ m = body.locked key

theorem run_locked {σ : Type} (d : Behaviour σ) (key : String) (body : Routine α) (s : σ) :
    (body.locked key).run d s = body.run d s := by
  have h := run_bind d body (fun a => .release key (.done a)) s
  change (body.bind fun a => .release key (.done a)).run d s = _
  rw [h]
  simp [run]

/-- So many copies of a routine, one after another: their results and the store after them. -/
def serially (names : Naming) (m : Routine α) (s : Store) : Nat → List α × Store
  | 0 => ([], s)
  | k + 1 =>
    let (results, s) := m.serially names s k
    let (a, _, s) := m.run (behaviour names) s
    (results ++ [a], s)

theorem serially_locked (names : Naming) (key : String) (body : Routine α) (s : Store) (k : Nat) :
    (body.locked key).serially names s k = body.serially names s k := by
  induction k with
  | zero => rfl
  | succ k ih => simp only [serially, ih, run_locked]

theorem serially_length (names : Naming) (m : Routine α) (s : Store) (k : Nat) :
    (m.serially names s k).1.length = k := by
  induction k with
  | zero => rfl
  | succ k ih => simp [serially, ih]

end Routine

namespace Weave

variable {α : Type}

theorem filterMap_set_same {l : List (Strand α)} {p : Nat} {strand strand' : Strand α}
    (hp : l[p]? = some strand) (hsame : strand'.result? = strand.result?) :
    (l.set p strand').filterMap Strand.result? = l.filterMap Strand.result? := by
  induction l generalizing p with
  | nil => rfl
  | cons first rest ih =>
    cases p with
    | zero =>
      cases hp
      simp only [List.set_cons_zero, List.filterMap_cons, hsame]
    | succ p => simp only [List.set_cons_succ, List.filterMap_cons, ih hp]

theorem filterMap_set_done {l : List (Strand α)} {p : Nat} {strand strand' : Strand α} {a : α}
    (hp : l[p]? = some strand) (hnone : strand.result? = none) (hdone : strand'.result? = some a) :
    ((l.set p strand').filterMap Strand.result?).Perm (l.filterMap Strand.result? ++ [a]) := by
  induction l generalizing p with
  | nil => cases hp
  | cons first rest ih =>
    cases p with
    | zero =>
      cases hp
      simp only [List.set_cons_zero, List.filterMap_cons, hnone, hdone]
      exact (List.perm_append_singleton a _).symm
    | succ p =>
      simp only [List.set_cons_succ, List.filterMap_cons]
      cases first.result? with
      | none => exact ih hp
      | some b => exact (ih hp).cons b

def Away (key : String) (body : Routine α) (locks : LockTable Nat) (p : Nat)
    (strand : Strand α) : Prop :=
  strand.left = some (body.locked key) ∨ ∃ a, strand.left = some (.done a) ∧ locks.knows p = false

/-- The store is as so many copies leave it, or the next copy comes to what the routine inside comes
to from here. -/
def Ahead (names : Naming) (body : Routine α) (s : Store) (k : Nat) :
    Option (Nat × Routine α) → Store → Prop
  | none, t => t = (body.serially names s k).2
  | some (_, b), t => body.serially names s (k + 1) =
      ((body.serially names s k).1 ++ [(b.run (behaviour names) t).1],
        (b.run (behaviour names) t).2.2)

/-- Some copies of a routine are done, as if one after another; one may have entered, and goes on
from there as if alone. -/
structure Turns (names : Naming) (key : String) (body : Routine α) (s : Store) (k : Nat)
    (turn : Option (Nat × Routine α)) (w : Weave α) : Prop where
  locks : w.locks.Sound
  claims : ∀ c ∈ w.locks.claims, c.key = key ∧ c.task < w.strands.length
  uncancelled : ∀ strand ∈ w.strands, strand.cancelled = false
  away : ∀ p strand, w.strands[p]? = some strand → (∀ b, turn ≠ some (p, b)) →
    Away key body w.locks p strand
  inside : ∀ p b, turn = some (p, b) → b.Lockless ∧ w.locks.holds p = true ∧
    ∃ strand, w.strands[p]? = some strand ∧ strand.left = some (b.under key)
  results : w.results.Perm (body.serially names s k).1
  ahead : Ahead names body s k turn w.store

variable {names : Naming} {key : String} {body : Routine α} {s : Store} {k : Nat}
  {turn : Option (Nat × Routine α)} {w : Weave α}

theorem under_ne_done (b : Routine α) (key : String) (a : α) : b.under key ≠ .done a := by
  intro h
  cases b <;> cases h

theorem under_ne_acquire {b : Routine α} (hb : b.Lockless) (key key' : String)
    (next : Routine α) : b.under key ≠ .acquire key' next := by
  intro h
  cases b with
  | acquire | release => cases hb
  | done | call | record => cases h

theorem result?_under {strand : Strand α} {b : Routine α} (h : strand.left = some (b.under key)) :
    strand.result? = none := by
  refine Option.eq_none_iff_forall_not_mem.mpr fun a ha => ?_
  have hdone := Strand.result?_eq_some.mp ha
  rw [h] at hdone
  exact under_ne_done b key a (Option.some.inj hdone)

theorem turns_start {locks : LockTable Nat} (hlocks : locks.Sound) (hfree : locks.claims = [])
    (n : Nat) :
    Turns names key body s 0 none (start (List.replicate n (body.locked key)) locks s) := by
  have hstart : ∀ strand ∈ (start (List.replicate n (body.locked key)) locks s).strands,
      strand = .start (body.locked key) := by
    intro strand hm
    obtain ⟨routine, hr, rfl⟩ := List.mem_map.mp hm
    rw [List.eq_of_mem_replicate hr]
  refine ⟨hlocks, fun c hc => ?_, fun strand hm => ?_, fun p strand hp _ => ?_,
    fun p b h => (nomatch h), ?_, rfl⟩
  · change c ∈ locks.claims at hc
    rw [hfree] at hc
    cases hc
  · rw [hstart strand hm]
    rfl
  · rw [hstart strand (List.mem_of_getElem? hp)]
    exact .inl rfl
  · have hnone : (start (List.replicate n (body.locked key)) locks s).results = [] := by
      refine List.filterMap_eq_nil_iff.mpr fun strand hm => ?_
      rw [hstart strand hm]
      rfl
    rw [hnone]
    exact .nil

namespace Turns

theorem owns (h : Turns names key body s k turn w) {p : Nat} (hh : w.locks.holds p = true) :
    w.locks.Owns p key := by
  obtain ⟨c, hc, htask, hholding⟩ := LockTable.holds_iff.mp hh
  exact ⟨c, hc, htask, (h.claims c hc).1, hholding⟩

theorem cases_at (h : Turns names key body s k turn w) {p : Nat} {strand : Strand α}
    (hp : w.strands[p]? = some strand) :
    (∃ b, turn = some (p, b) ∧ b.Lockless ∧ strand.left = some (b.under key)) ∨
      (∀ b, turn ≠ some (p, b)) ∧ Away key body w.locks p strand := by
  by_cases hturn : ∃ b, turn = some (p, b)
  · obtain ⟨b, hturn⟩ := hturn
    obtain ⟨hb, -, strand', hp', hl⟩ := h.inside p b hturn
    rw [hp] at hp'
    cases hp'
    exact .inl ⟨b, hturn, hb, hl⟩
  · have hnot := not_exists.mp hturn
    exact .inr ⟨hnot, h.away p strand hp hnot⟩

theorem of_acquire (h : Turns names key body s k turn w) {p : Nat} {strand : Strand α}
    {key' : String} {next : Routine α} (hp : w.strands[p]? = some strand)
    (hl : strand.left = some (.acquire key' next)) :
    (∀ b, turn ≠ some (p, b)) ∧ key' = key ∧ next = body.under key := by
  obtain ⟨b, -, hb, hl'⟩ | ⟨hnot, hl' | ⟨a, hl', -⟩⟩ := h.cases_at hp
  · rw [hl] at hl'
    exact absurd (Option.some.inj hl').symm (under_ne_acquire hb key key' next)
  · rw [hl] at hl'
    cases hl'
    exact ⟨hnot, rfl, rfl⟩
  · rw [hl] at hl'
    cases hl'

theorem of_not_acquire (h : Turns names key body s k turn w) {p : Nat} {strand : Strand α}
    {routine : Routine α} (hp : w.strands[p]? = some strand) (hl : strand.left = some routine)
    (hacquire : ∀ key next, routine ≠ .acquire key next) (hdone : ∀ a, routine ≠ .done a) :
    ∃ b, turn = some (p, b) ∧ b.Lockless ∧ routine = b.under key := by
  obtain ⟨b, hturn, hb, hl'⟩ | ⟨-, hl' | ⟨a, hl', -⟩⟩ := h.cases_at hp
  · rw [hl] at hl'
    exact ⟨b, hturn, hb, Option.some.inj hl'⟩
  · rw [hl] at hl'
    exact absurd (Option.some.inj hl') (hacquire _ _)
  · rw [hl] at hl'
    exact absurd (Option.some.inj hl') (hdone a)

theorem relock (h : Turns names key body s k turn w) {locks : LockTable Nat} (hlocks : locks.Sound)
    (hclaims : ∀ c ∈ locks.claims, c.key = key ∧ c.task < w.strands.length)
    (hknows : ∀ p strand a, w.strands[p]? = some strand → strand.left = some (.done a) →
      w.locks.knows p = false → locks.knows p = false)
    (hholds : ∀ p, w.locks.holds p = true → locks.holds p = true) :
    Turns names key body s k turn { w with locks } where
  locks := hlocks
  claims := hclaims
  uncancelled := h.uncancelled
  away p strand hp hnot := by
    obtain hl | ⟨a, hl, hk⟩ := h.away p strand hp hnot
    · exact .inl hl
    · exact .inr ⟨a, hl, hknows p strand a hp hl hk⟩
  inside p b hturn := by
    obtain ⟨hb, hh, hstrand⟩ := h.inside p b hturn
    exact ⟨hb, hholds p hh, hstrand⟩
  results := h.results
  ahead := h.ahead

theorem ask (h : Turns names key body s k turn w) {p : Nat} {strand : Strand α} {key' : String}
    {next : Routine α} (hp : w.strands[p]? = some strand)
    (hl : strand.left = some (.acquire key' next)) (hk : w.locks.knows p = false) :
    Turns names key body s k turn { w with locks := w.locks.ask p key' } := by
  obtain ⟨-, rfl, -⟩ := h.of_acquire hp hl
  obtain ⟨slot, hclaims⟩ := w.locks.claims_ask p key'
  refine h.relock (h.locks.ask hk key') (fun c hc => ?_) (fun q other a hq hdone hkq => ?_)
    fun q hh => ?_
  · rw [hclaims, List.mem_append, List.mem_singleton] at hc
    obtain hc | rfl := hc
    · exact h.claims c hc
    · exact ⟨rfl, (List.getElem?_eq_some_iff.mp hp).1⟩
  · have hne : p ≠ q := by
      rintro rfl
      rw [hp] at hq
      cases hq
      rw [hl] at hdone
      cases hdone
    simp only [LockTable.knows, hclaims, List.any_append] at hkq ⊢
    simp [hkq, hne]
  · obtain ⟨c, hc, hrest⟩ := LockTable.holds_iff.mp hh
    refine LockTable.holds_iff.mpr ⟨c, ?_, hrest⟩
    rw [hclaims]
    exact List.mem_append_left _ hc

theorem take (h : Turns names key body s k turn w) {p : Nat} (hcan : w.locks.CanTake p) :
    Turns names key body s k turn { w with locks := w.locks.take p } := by
  refine h.relock (h.locks.take hcan) (fun c hc => ?_) (fun q other a hq hdone hkq => ?_)
    fun q hh => ?_
  · obtain ⟨c₀, hc₀, htask, hkey, -⟩ := LockTable.mem_take hc
    rw [htask, hkey]
    exact h.claims c₀ hc₀
  · by_contra hk
    obtain ⟨c, hc, htask⟩ := LockTable.knows_iff.mp (by simpa using hk)
    obtain ⟨c₀, hc₀, htask₀, -⟩ := LockTable.mem_take hc
    rw [LockTable.knows_iff.mpr ⟨c₀, hc₀, htask₀ ▸ htask⟩] at hkq
    cases hkq
  · obtain ⟨c, hc, htask, hholding⟩ := LockTable.holds_iff.mp hh
    refine LockTable.holds_iff.mpr ⟨_, List.mem_map_of_mem hc, ?_⟩
    by_cases hcp : c.task = p
    · rw [if_pos hcp]
      exact ⟨htask, rfl⟩
    · rw [if_neg hcp]
      exact ⟨htask, hholding⟩

theorem enter_at (h : Turns names key body s k turn w) {p : Nat} {strand strand' : Strand α}
    {b : Routine α} {t : Store} (hp : w.strands[p]? = some strand)
    (hturn : ∀ q b, turn = some (q, b) → q = p) (hnone : strand.result? = none)
    (hc : strand'.cancelled = strand.cancelled) (hl : strand'.left = some (b.under key))
    (hb : b.Lockless) (hholds : w.locks.holds p = true)
    (hahead : Ahead names body s k (some (p, b)) t) :
    Turns names key body s k (some (p, b)) ⟨w.strands.set p strand', w.locks, t⟩ where
  locks := h.locks
  claims c hm := by
    rw [List.length_set]
    exact h.claims c hm
  uncancelled other hm := by
    obtain hm | rfl := List.mem_or_eq_of_mem_set hm
    · exact h.uncancelled other hm
    · rw [hc]
      exact h.uncancelled strand (List.mem_of_getElem? hp)
  away q other hq hnot := by
    have hne : p ≠ q := fun he => hnot b (he ▸ rfl)
    rw [List.getElem?_set_ne hne] at hq
    exact h.away q other hq fun b' he => hne (hturn q b' he).symm
  inside q b' he := by
    cases he
    exact ⟨hb, hholds, strand', getElem?_set hp strand', hl⟩
  results := by
    have hsame := filterMap_set_same hp ((result?_under hl).trans hnone.symm)
    change (List.filterMap Strand.result? (w.strands.set p strand')).Perm _
    rw [hsame]
    exact h.results
  ahead := hahead

theorem enter (h : Turns names key body s k turn w) (hb : body.Lockless) {p : Nat}
    {strand : Strand α} {key' : String} {next : Routine α} (hp : w.strands[p]? = some strand)
    (hl : strand.left = some (.acquire key' next)) (hh : w.locks.holds p = true) :
    Turns names key body s k (some (p, body)) (w.put p { strand with left := some next }) := by
  obtain ⟨hnot, rfl, rfl⟩ := h.of_acquire hp hl
  have hnone : turn = none := by
    cases hturn : turn with
    | none => rfl
    | some at' =>
      obtain ⟨q, b⟩ := at'
      obtain ⟨-, hq, -⟩ := h.inside q b hturn
      have hsame : q = p := h.locks.exclusive (h.owns hq) (h.owns hh)
      subst hsame
      exact absurd hturn (hnot b)
  subst hnone
  refine h.enter_at hp (fun _ _ he => (nomatch he)) ?_ rfl rfl hb hh ?_
  · unfold Strand.result?
    rw [hl]
    rfl
  · have hstore : w.store = (body.serially names s k).2 := h.ahead
    rw [hstore]
    rfl

theorem go_on (h : Turns names key body s k turn w) {p : Nat} {strand strand' : Strand α}
    {b b' : Routine α} {t : Store} (hp : w.strands[p]? = some strand) (hturn : turn = some (p, b))
    (hl : strand.left = some (b.under key)) (hc : strand'.cancelled = strand.cancelled)
    (hl' : strand'.left = some (b'.under key)) (hb : b'.Lockless)
    (hresult : (b'.run (behaviour names) t).1 = (b.run (behaviour names) w.store).1)
    (hstore : (b'.run (behaviour names) t).2.2 = (b.run (behaviour names) w.store).2.2) :
    Turns names key body s k (some (p, b')) ⟨w.strands.set p strand', w.locks, t⟩ := by
  subst hturn
  obtain ⟨-, hholds, -⟩ := h.inside p b rfl
  refine h.enter_at hp (fun q b he => ?_) (result?_under hl) hc hl' hb hholds ?_
  · cases he
    rfl
  · simp only [Ahead, hresult, hstore]
    exact h.ahead

theorem call {p : Nat} {c : Call} {next : c.Outcome → Routine α}
    (h : Turns names key body s k (some (p, .call c next)) w) {strand : Strand α}
    (hp : w.strands[p]? = some strand) (hl : strand.left = some ((Routine.call c next).under key)) :
    Turns names key body s k (some (p, next (behaviour names c w.store).1))
      { w.put p { strand with
        left := some ((next (behaviour names c w.store).1).under key)
        deeds := strand.deeds ++ [.done names c w.store] } with
          store := (behaviour names c w.store).2 } := by
  obtain ⟨hlock, -⟩ := h.inside p _ rfl
  exact h.go_on hp rfl hl rfl rfl (hlock _) rfl rfl

theorem note {p : Nat} {change : Change} {next : Routine α}
    (h : Turns names key body s k (some (p, .record change next)) w) {strand : Strand α}
    (hp : w.strands[p]? = some strand)
    (hl : strand.left = some ((Routine.record change next).under key)) :
    Turns names key body s k (some (p, next))
      (w.put p { strand with
        left := some (next.under key), changes := strand.changes ++ [change] }) := by
  obtain ⟨hlock, -⟩ := h.inside p _ rfl
  exact h.go_on hp rfl hl rfl rfl hlock rfl rfl

theorem leave {p : Nat} {a : α} (h : Turns names key body s k (some (p, .done a)) w)
    {strand : Strand α} (hp : w.strands[p]? = some strand) :
    Turns names key body s (k + 1) none
      { w.put p { strand with left := some (.done a) } with locks := w.locks.drop p } where
  locks := h.locks.drop p
  claims c hc := by
    have hlt := h.claims c (LockTable.mem_drop.mp hc).1
    change _ ∧ c.task < (w.strands.set _ _).length
    rwa [List.length_set]
  uncancelled other hm := by
    obtain hm | rfl := List.mem_or_eq_of_mem_set hm
    · exact h.uncancelled other hm
    · exact h.uncancelled strand (List.mem_of_getElem? hp)
  away q other hq _ := by
    change (w.strands.set _ _)[q]? = _ at hq
    by_cases he : p = q
    · subst he
      rw [getElem?_set hp] at hq
      cases hq
      exact .inr ⟨a, rfl, LockTable.knows_drop (.inr rfl)⟩
    · rw [List.getElem?_set_ne he] at hq
      obtain hl | ⟨a', hl, hk⟩ := h.away q other hq fun b hb => by cases hb; exact he rfl
      · exact .inl hl
      · exact .inr ⟨a', hl, LockTable.knows_drop (.inl hk)⟩
  inside _ _ he := nomatch he
  results := by
    obtain ⟨-, -, strand', hp', hl⟩ := h.inside p _ rfl
    rw [hp] at hp'
    cases hp'
    have hstore : body.serially names s (k + 1) = ((body.serially names s k).1 ++ [a], w.store) :=
      h.ahead
    rw [hstore]
    exact (filterMap_set_done hp (result?_under hl) rfl).trans (h.results.append_right [a])
  ahead := by
    have hstore : body.serially names s (k + 1) = ((body.serially names s k).1 ++ [a], w.store) :=
      h.ahead
    change w.store = _
    rw [hstore]

theorem step (h : Turns names key body s k turn w) (hb : body.Lockless) {w' : Weave α}
    (hstep : w.Step names w') : ∃ k' turn', Turns names key body s k' turn' w' := by
  cases hstep with
  | ask hp hl hk => exact ⟨k, turn, h.ask hp hl hk⟩
  | take hcan => exact ⟨k, turn, h.take hcan⟩
  | enter hp hl hh => exact ⟨k, _, h.enter hb hp hl hh⟩
  -- The routine that leaves is the one inside, and it is at the end of the body.
  | leave hp hl =>
    obtain ⟨b, hturn, hlock, he⟩ := h.of_not_acquire hp hl nofun nofun
    cases b with
    | done a =>
      cases he
      subst hturn
      exact ⟨k + 1, none, h.leave hp⟩
    | acquire | release => cases hlock
    | call | record => cases he
  | note hp hl =>
    obtain ⟨b, hturn, hlock, he⟩ := h.of_not_acquire hp hl nofun nofun
    cases b with
    | record change next =>
      cases he
      subst hturn
      exact ⟨k, _, h.note hp hl⟩
    | acquire | release => cases hlock
    | call | done => cases he
  | call hp hl hc =>
    obtain ⟨b, hturn, hlock, he⟩ := h.of_not_acquire hp hl nofun nofun
    cases b with
    | call c next =>
      cases he
      subst hturn
      exact ⟨k, _, h.call hp hl⟩
    | acquire | release => cases hlock
    | done | record => cases he
  | refuse hp hl hc =>
    rw [h.uncancelled _ (List.mem_of_getElem? hp)] at hc
    cases hc

theorem steps (h : Turns names key body s k turn w) (hb : body.Lockless) {w' : Weave α}
    (hsteps : Relation.ReflTransGen (Step names) w w') :
    ∃ k' turn', Turns names key body s k' turn' w' := by
  induction hsteps with
  | refl => exact ⟨k, turn, h⟩
  | tail _ hstep ih =>
    obtain ⟨_, _, ih⟩ := ih
    exact ih.step hb hstep

theorem finish {p : Nat} {b : Routine α} (h : Turns names key body s k (some (p, b)) w) :
    ∃ w', Relation.ReflTransGen (Step names) w w' ∧ Turns names key body s (k + 1) none w' := by
  induction b generalizing w with
  | done a =>
    obtain ⟨-, -, strand, hp, hl⟩ := h.inside p _ rfl
    exact ⟨_, .single (.leave hp hl), h.leave hp⟩
  | call c next ih =>
    obtain ⟨-, -, strand, hp, hl⟩ := h.inside p _ rfl
    have hc := h.uncancelled strand (List.mem_of_getElem? hp)
    obtain ⟨w', hsteps, h'⟩ := ih _ (h.call hp hl)
    exact ⟨w', .head (.call hp hl hc) hsteps, h'⟩
  | acquire | release =>
    obtain ⟨hlock, -⟩ := h.inside p _ rfl
    cases hlock
  | record change next ih =>
    obtain ⟨-, -, strand, hp, hl⟩ := h.inside p _ rfl
    obtain ⟨w', hsteps, h'⟩ := ih (h.note hp hl)
    exact ⟨w', .head (.note hp hl) hsteps, h'⟩

theorem enter_known (h : Turns names key body s k none w) (hb : body.Lockless) {p : Nat}
    {strand : Strand α} (hp : w.strands[p]? = some strand)
    (hl : strand.left = some (body.locked key)) (hk : w.locks.knows p = true)
    (hfree : ∀ c ∈ w.locks.claims, c.holding = false) :
    ∃ w', Relation.ReflTransGen (Step names) w w' ∧
      Turns names key body s k (some (p, body)) w' := by
  obtain ⟨c, hc, htask⟩ := LockTable.knows_iff.mp hk
  have hcan : w.locks.CanTake p := by
    refine ⟨c, hc, htask, List.any_eq_false.mpr fun d hd => ?_⟩
    simp [hfree d hd]
  have hholds : (w.locks.take p).holds p = true := by
    refine LockTable.holds_iff.mpr ⟨_, List.mem_map_of_mem hc, ?_⟩
    rw [if_pos htask]
    exact ⟨htask, rfl⟩
  exact ⟨_, .tail (.single (.take hcan)) (.enter hp hl hholds), (h.take hcan).enter hb hp hl hholds⟩

theorem begin_next (h : Turns names key body s k none w) (hb : body.Lockless) {p : Nat}
    {strand : Strand α} (hp : w.strands[p]? = some strand)
    (hl : strand.left = some (body.locked key)) :
    ∃ w' p, Relation.ReflTransGen (Step names) w w' ∧
      Turns names key body s k (some (p, body)) w' := by
  by_cases hheld : ∃ c ∈ w.locks.claims, c.holding = true
  -- Somebody took the lock and has not entered yet: that one is the next.
  · obtain ⟨c, hc, hholding⟩ := hheld
    have hholds : w.locks.holds c.task = true := LockTable.holds_iff.mpr ⟨c, hc, rfl, hholding⟩
    obtain ⟨other, hq⟩ : ∃ other, w.strands[c.task]? = some other :=
      ⟨_, List.getElem?_eq_getElem (h.claims c hc).2⟩
    obtain hl' | ⟨a, -, hk⟩ := h.away _ _ hq nofun
    · exact ⟨_, c.task, .single (.enter hq hl' hholds), h.enter hb hq hl' hholds⟩
    · rw [LockTable.knows_iff.mpr ⟨c, hc, rfl⟩] at hk
      cases hk
  -- Nobody has the lock, so this one can take it.
  · have hfree : ∀ c ∈ w.locks.claims, c.holding = false := by
      intro c hc
      by_contra hh
      exact hheld ⟨c, hc, by simpa using hh⟩
    cases hk : w.locks.knows p with
    | true =>
      obtain ⟨w', hsteps, h'⟩ := h.enter_known hb hp hl hk hfree
      exact ⟨w', p, hsteps, h'⟩
    | false =>
      obtain ⟨slot, hclaims⟩ := w.locks.claims_ask p key
      have hknows : (w.locks.ask p key).knows p = true :=
        LockTable.knows_iff.mpr ⟨⟨p, key, slot, false⟩, by rw [hclaims]; simp, rfl⟩
      have hfree' : ∀ c ∈ (w.locks.ask p key).claims, c.holding = false := by
        intro c hc
        rw [hclaims, List.mem_append, List.mem_singleton] at hc
        obtain hc | rfl := hc
        · exact hfree c hc
        · rfl
      obtain ⟨w', hsteps, h'⟩ := (h.ask hp hl hk).enter_known hb hp hl hknows hfree'
      exact ⟨w', p, .head (.ask hp hl hk) hsteps, h'⟩

theorem done_le (h : Turns names key body s k turn w) : k ≤ w.strands.length := by
  have hlength := h.results.length_eq
  rw [Routine.serially_length] at hlength
  rw [← hlength]
  exact List.length_filterMap_le _ _

theorem of_idle (h : Turns names key body s k turn w) (hidle : w.Idle) :
    turn = none ∧ k = w.strands.length := by
  constructor
  · cases hturn : turn with
    | none => rfl
    | some at' =>
      obtain ⟨-, -, strand, hp, hl⟩ := h.inside _ _ hturn
      obtain ⟨a, ha⟩ := hidle strand (List.mem_of_getElem? hp) _ hl
      exact absurd ha (under_ne_done _ _ _)
  · have hall : w.results.length = w.strands.length := by
      refine List.filterMap_length_eq_length.mpr fun strand hm => ?_
      obtain ⟨p, hp⟩ := List.getElem?_of_mem hm
      obtain ⟨b, -, -, hl⟩ | ⟨-, hl | ⟨a, hl, -⟩⟩ := h.cases_at hp
      · obtain ⟨a, ha⟩ := hidle strand hm _ hl
        exact absurd ha (under_ne_done _ _ _)
      · obtain ⟨a, ha⟩ := hidle strand hm _ hl
        cases ha
      · rw [Strand.result?_eq_some.mpr hl]
        rfl
    rw [← hall, h.results.length_eq, Routine.serially_length]

theorem next_turn (h : Turns names key body s k none w) (hb : body.Lockless) (hidle : ¬ w.Idle) :
    ∃ w', Relation.ReflTransGen (Step names) w w' ∧ Turns names key body s (k + 1) none w' := by
  obtain ⟨p, strand, hp, hl⟩ : ∃ (p : Nat) (strand : Strand α), w.strands[p]? = some strand ∧
      strand.left = some (body.locked key) := by
    by_contra hn
    refine hidle fun strand hm routine hl => ?_
    obtain ⟨p, hp⟩ := List.getElem?_of_mem hm
    obtain hl' | ⟨a, hl', -⟩ := h.away p strand hp nofun
    · exact absurd ⟨p, strand, hp, hl'⟩ hn
    · rw [hl'] at hl
      exact ⟨a, (Option.some.inj hl).symm⟩
  obtain ⟨w₁, p, hsteps, h₁⟩ := h.begin_next hb hp hl
  obtain ⟨w₂, hsteps', h₂⟩ := h₁.finish
  exact ⟨w₂, hsteps.trans hsteps', h₂⟩

theorem ends_between (h : Turns names key body s k none w) (hb : body.Lockless) {m : Nat}
    (hm : w.strands.length ≤ k + m) :
    ∃ w', Relation.ReflTransGen (Step names) w w' ∧ w'.Idle := by
  -- Each turn leaves one copy fewer that is not done.
  induction m generalizing k w with
  | zero =>
    refine ⟨w, .refl, by_contra fun hidle => ?_⟩
    obtain ⟨w₁, hsteps, h₁⟩ := h.next_turn hb hidle
    have hle := h₁.done_le
    rw [length_of_steps hsteps] at hle
    omega
  | succ m ih =>
    by_cases hidle : w.Idle
    · exact ⟨w, .refl, hidle⟩
    · obtain ⟨w₁, hsteps, h₁⟩ := h.next_turn hb hidle
      have hlength := length_of_steps hsteps
      obtain ⟨w₂, hsteps', hidle'⟩ := ih h₁ (by omega)
      exact ⟨w₂, hsteps.trans hsteps', hidle'⟩

theorem ends (h : Turns names key body s k turn w) (hb : body.Lockless) :
    ∃ w', Relation.ReflTransGen (Step names) w w' ∧ w'.Idle := by
  cases turn with
  | none => exact h.ends_between hb (Nat.le_add_left _ k)
  | some at' =>
    obtain ⟨p, b⟩ := at'
    obtain ⟨w₁, hsteps, h₁⟩ := h.finish
    obtain ⟨w₂, hsteps', hidle⟩ := h₁.ends_between hb (Nat.le_add_left _ (k + 1))
    exact ⟨w₂, hsteps.trans hsteps', hidle⟩

end Turns

variable {locks : LockTable Nat} {n : Nat}

/-- Copies of a routine under a lock can always come to their end, -/
theorem guarded_ends {m : Routine α} (hm : m.Guarded key) (hlocks : locks.Sound)
    (hfree : locks.claims = [])
    (hw : Relation.ReflTransGen (Step names) (start (List.replicate n m) locks s) w) :
    ∃ w', Relation.ReflTransGen (Step names) w w' ∧ w'.Idle := by
  obtain ⟨body, hb, rfl⟩ := hm
  obtain ⟨k, turn, h⟩ := (turns_start hlocks hfree n).steps hb hw
  exact h.ends hb

/-- and there they have come to what they come to one after another. -/
theorem guarded_serial {m : Routine α} (hm : m.Guarded key) (hlocks : locks.Sound)
    (hfree : locks.claims = [])
    (hw : Relation.ReflTransGen (Step names) (start (List.replicate n m) locks s) w)
    (hidle : w.Idle) :
    w.results.Perm (m.serially names s n).1 ∧ w.store = (m.serially names s n).2 := by
  obtain ⟨body, hb, rfl⟩ := hm
  obtain ⟨k, turn, h⟩ := (turns_start hlocks hfree n).steps hb hw
  obtain ⟨rfl, hk⟩ := h.of_idle hidle
  obtain rfl : k = n := by
    rw [hk, length_of_steps hw]
    simp [start]
  rw [Routine.serially_locked]
  exact ⟨h.results, h.ahead⟩

end Weave

end Federation
