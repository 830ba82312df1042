import Mathlib.Order.Defs.LinearOrder
import Mathlib.Data.String.Basic
import Federation.Proofs.Parts
import Federation.Proofs.Report

namespace Federation

open Store

section Sorting

variable {α κ : Type} [LinearOrder κ]

def sortedBy (key : α → κ) (l : List α) : List α := l.mergeSort fun a b => key a ≤ key b

theorem pairwise_sortedBy (key : α → κ) (l : List α) :
    (sortedBy key l).Pairwise fun a b => key a ≤ key b := by
  refine (List.pairwise_mergeSort (fun a b c hab hbc => ?_) (fun a b => ?_) l).imp fun h => ?_
  · simp only [decide_eq_true_eq] at hab hbc ⊢
    exact hab.trans hbc
  · simpa using le_total (key a) (key b)
  · simpa using h

variable [BEq κ] [LawfulBEq κ] {key : α → κ} {l l' : List α}

theorem filter_sortedBy (key : α → κ) (k : κ) (l : List α) :
    (sortedBy key l).filter (key · == k) = l.filter (key · == k) := by
  have hequal : (l.filter (key · == k)).Pairwise fun a b => decide (key a ≤ key b) = true := by
    refine List.pairwise_iff_forall_sublist.mpr fun {a b} hsub => ?_
    have ha := (List.mem_filter.mp (hsub.subset (List.mem_cons_self))).2
    have hb := (List.mem_filter.mp (hsub.subset (List.mem_cons_of_mem _ List.mem_cons_self))).2
    rw [decide_eq_true_eq, eq_of_beq ha, eq_of_beq hb]
  have hsub : (l.filter (key · == k)).Sublist (sortedBy key l) := by
    refine List.sublist_mergeSort (fun a b c hab hbc => ?_) (fun a b => ?_) hequal
      List.filter_sublist
    · simp only [decide_eq_true_eq] at hab hbc ⊢
      exact hab.trans hbc
    · simpa using le_total (key a) (key b)
  have hkept := hsub.filter (key · == k)
  simp only [List.filter_filter, Bool.and_self] at hkept
  refine (hkept.eq_of_length ?_).symm
  exact ((List.mergeSort_perm l _).filter _).length_eq.symm

theorem eq_of_sorted (hl : l.Pairwise fun a b => key a ≤ key b)
    (hl' : l'.Pairwise fun a b => key a ≤ key b)
    (h : ∀ k, l.filter (key · == k) = l'.filter (key · == k)) : l = l' := by
  induction l generalizing l' with
  | nil =>
    cases l' with
    | nil => rfl
    | cons a' r' => simpa using h (key a')
  | cons a r ih =>
    cases l' with
    | nil => simpa using h (key a)
    | cons a' r' =>
      have hmem : a ∈ (a' :: r').filter (key · == key a) := by
        rw [← h]
        simp
      have hmem' : a' ∈ (a :: r).filter (key · == key a') := by
        rw [h]
        simp
      -- Each head occurs in the other list, so neither key is below the other.
      have hkey : key a = key a' := by
        refine le_antisymm ?_ ?_
        · obtain rfl | hm := List.mem_cons.mp (List.mem_of_mem_filter hmem')
          · exact le_refl _
          · exact List.rel_of_pairwise_cons hl hm
        · obtain rfl | hm := List.mem_cons.mp (List.mem_of_mem_filter hmem)
          · exact le_refl _
          · exact List.rel_of_pairwise_cons hl' hm
      have hhead := h (key a)
      rw [List.filter_cons_of_pos (by simp), List.filter_cons_of_pos (by simp [hkey])] at hhead
      obtain rfl : a = a' := (List.cons.inj hhead).1
      refine congrArg (a :: ·) (ih hl.of_cons hl'.of_cons fun k => ?_)
      have hk := h k
      rw [List.filter_cons, List.filter_cons] at hk
      split at hk
      · exact (List.cons.inj hk).2
      · exact hk

theorem sortedBy_congr (h : ∀ k, l.filter (key · == k) = l'.filter (key · == k)) :
    sortedBy key l = sortedBy key l' :=
  eq_of_sorted (pairwise_sortedBy key l) (pairwise_sortedBy key l') fun k => by
    rw [filter_sortedBy, filter_sortedBy, h]

end Sorting

namespace Store

variable {names : Naming} {s t : Store}

/-- The same store, once applications and service principals are sorted by display name. -/
structure SameSorted (s t : Store) : Prop where
  applications : sortedBy (·.displayName) s.applications = sortedBy (·.displayName) t.applications
  principals :
    sortedBy (·.displayName.getD "") s.principals = sortedBy (·.displayName.getD "") t.principals
  credentials : ∀ owner, s.credentialsOf owner = t.credentialsOf owner

theorem sameSorted_of_alike (hs : s.Traced names) (ht : t.Traced names)
    (h : ∀ a, Alike names (· == a) s t) : SameSorted s t := by
  refine ⟨sortedBy_congr fun a => (h a).applications, sortedBy_congr fun a => ?_,
    hs.toSound.credentialsOf_congr ht.toSound fun a n =>
      (h a).credentials a n (beq_self_eq_true a)⟩
  have hname : ∀ u : Store, u.Traced names → u.principals.filter (·.displayName.any (· == a)) =
      u.principals.filter (·.displayName.getD "" == a) := by
    intro u hu
    refine List.filter_congr fun p hp => ?_
    obtain ⟨b, m, n, hname, -⟩ := hu.named p hp
    rw [hname]
    rfl
  rw [← hname s hs, ← hname t ht]
  exact (h a).principals

end Store

variable {names : Naming}

def Order.outcome (o : Order) (names : Naming) (s : Store) (identity : WorkloadIdentity) :
    IdentityOutcome :=
  let alone := (o.attempt identity).run.run (behaviour names) s
  ⟨identity.displayName, alone.2.1, alone.1⟩

/-- A store that has under the name of each identity what would be there if it were the only one,
and otherwise what was there. -/
structure Order.Leaves (o : Order) (names : Naming) (identities : List WorkloadIdentity)
    (s t : Store) : Prop where
  each : ∀ identity ∈ identities, Alike names (· == identity.displayName) t
    ((o.attempt identity).run.run (behaviour names) s).2.2
  rest : ∀ P : String → Bool, (∀ identity ∈ identities, P identity.displayName = false) →
    Alike names P t s

namespace Order

variable {o : Order} {s t u : Store}

theorem Leaves.sameSorted {identities : List WorkloadIdentity}
    (h : o.Leaves names identities s t) (h' : o.Leaves names identities s u)
    (ht : t.Traced names) (hu : u.Traced names) : SameSorted t u := by
  refine sameSorted_of_alike ht hu fun a => ?_
  by_cases ha : ∃ identity ∈ identities, identity.displayName = a
  · obtain ⟨identity, hm, rfl⟩ := ha
    exact (h.each identity hm).trans (h'.each identity hm).symm
  · have hnone : ∀ identity ∈ identities, (identity.displayName == a) = false := by
      intro identity hm
      exact beq_eq_false_iff_ne.mpr fun he => ha ⟨identity, hm, he⟩
    exact (h.rest _ hnone).trans (h'.rest _ hnone).symm

theorem outcome_congr (hn : names.Distinct) (hs : s.Traced names) (ht : t.Traced names)
    {identity : WorkloadIdentity} (h : Alike names (· == identity.displayName) t s) :
    o.outcome names t identity = o.outcome names s identity ∧
      Alike names (· == identity.displayName) ((o.attempt identity).run.run (behaviour names) t).2.2
        ((o.attempt identity).run.run (behaviour names) s).2.2 := by
  obtain ⟨hresult, hchanges, hstore⟩ := (o.attempt_keepsTo identity).run_alike hn
    (P := (· == identity.displayName)) (beq_self_eq_true _) ht hs h
  exact ⟨by simp only [outcome, hresult, hchanges], hstore⟩

/-- One after another, identities come to what each would have come to alone. -/
theorem runEach_leaves (hn : names.Distinct) (o : Order) {identities : List WorkloadIdentity}
    (hnames : (identities.map (·.displayName)).Nodup) (hs : s.Traced names) :
    let (outcomes, t) := o.runEach (behaviour names) identities s
    outcomes = identities.map (o.outcome names s) ∧ t.Traced names ∧
      o.Leaves names identities s t := by
  induction identities generalizing s with
  | nil => exact ⟨rfl, hs, ⟨fun _ h => (nomatch h), fun _ _ => .refl s⟩⟩
  | cons identity rest ih =>
    have hkeeps : Attempt.KeepsTo names identity.displayName (fun _ => True) (o.attempt identity) :=
      o.attempt_keepsTo identity
    obtain ⟨hnew, hnames⟩ := List.nodup_cons.mp hnames
    have hfirst := Routine.traced_run (o.attempt identity).run hs
    obtain ⟨houtcomes, htraced, hleaves⟩ := ih hnames hfirst
    have hne : ∀ other ∈ rest, other.displayName ≠ identity.displayName := fun other hm he =>
      hnew (List.mem_map.mpr ⟨other, hm, he⟩)
    have hsame : ∀ other ∈ rest, _ := fun other hm => outcome_congr (o := o) hn hs hfirst
      (hkeeps.run_other hn (P := (· == other.displayName))
        (beq_eq_false_iff_ne.mpr (hne other hm).symm) hs)
    refine ⟨?_, htraced, fun other hm => ?_, fun P hP => ?_⟩
    · rw [List.map_cons]
      refine congrArg₂ List.cons rfl (houtcomes.trans ?_)
      exact List.map_congr_left fun other hm => (hsame other hm).1
    · obtain rfl | hm := List.mem_cons.mp hm
      · exact hleaves.rest _ fun other ho => beq_eq_false_iff_ne.mpr (hne other ho)
      · exact (hleaves.each other hm).trans (hsame other hm).2
    · refine (hleaves.rest P fun other ho => hP other (List.mem_cons_of_mem _ ho)).trans ?_
      exact hkeeps.run_other hn (hP identity List.mem_cons_self) hs

def permits (o : Order) : Nat := max 1 o.concurrency

def crew (o : Order) (locks : LockTable Nat) (s : Store) : Crew (Except ReconcileError Unit) :=
  .start (o.identities.map fun identity => (0, (o.attempt identity).run)) locks s

def outcomeAt (o : Order) (c : Crew (Except ReconcileError Unit)) (p : Nat) :
    Option IdentityOutcome := do
  let identity ← o.identities[p]?
  let strand ← c.weave.strands[p]?
  strand.outcome? identity.displayName

def summary (o : Order) (c : Crew (Except ReconcileError Unit)) : Summary :=
  .ofOutcomes (c.weave.strands.any (·.cancelled)) (c.joined.mergeSort.filterMap (o.outcomeAt c))

def parts (o : Order) : List (Part (Except ReconcileError Unit)) :=
  o.identities.map fun identity => ⟨identity.displayName, (o.attempt identity).run⟩

theorem filterMap_range {α β : Type} {f : Nat → Option β} {g : α → β} {l : List α}
    (h : ∀ p a, l[p]? = some a → f p = some (g a)) :
    (List.range l.length).filterMap f = l.map g := by
  induction l generalizing f with
  | nil => rfl
  | cons a rest ih =>
    rw [List.length_cons, List.range_succ_eq_map, List.filterMap_cons_some (h 0 a rfl),
      List.filterMap_map, List.map_cons]
    exact congrArg (g a :: ·) (ih fun p b hp => h (p + 1) b hp)

theorem mergeSort_of_perm_range {l : List Nat} {n : Nat} (h : l.Perm (List.range n)) :
    l.mergeSort = List.range n := by
  have hsorted : l.mergeSort.Pairwise (· ≤ ·) := pairwise_sortedBy id l
  exact List.Perm.eq_of_pairwise (fun _ _ _ _ => Nat.le_antisymm) hsorted List.pairwise_le_range
    ((List.mergeSort_perm l _).trans h)

theorem crew_manned (hn : names.Distinct) (o : Order) {locks : LockTable Nat}
    (hlocks : locks.Sound) (hfree : locks.claims = []) (hs : s.Sound names) :
    (o.crew locks s).Manned names := by
  refine Crew.manned_start hlocks hfree hs fun t ht => ?_
  obtain ⟨identity, -, rfl⟩ := List.mem_map.mp ht
  exact Errand.abides hn (.attend o identity) nofun

theorem crew_parted (o : Order) (locks : LockTable Nat) (hs : s.Traced names) :
    (o.crew locks s).weave.Parted names (Uncut fun _ => True) o.parts s := by
  have hparts : (o.crew locks s).weave = .start (o.parts.map (·.routine)) locks s := by
    simp [crew, parts, Crew.start, Function.comp_def]
  rw [hparts]
  refine Weave.parted_start hs (fun part hm => ?_) locks
  obtain ⟨identity, -, rfl⟩ := List.mem_map.mp hm
  exact o.attempt_keepsTo identity

theorem summary_of_done {c : Crew (Except ReconcileError Unit)} (hmanned : c.Manned names)
    (hparted : c.weave.Parted names (Uncut fun _ => True) o.parts s) (hdone : c.Done) :
    o.summary c = .ofOutcomes false (o.identities.map (o.outcome names s)) ∧
      o.Leaves names o.identities s c.weave.store := by
  have hpart : ∀ {p : Nat} {identity : WorkloadIdentity}, o.identities[p]? = some identity →
      o.parts[p]? = some ⟨identity.displayName, (o.attempt identity).run⟩ := by
    intro p identity hp
    rw [parts, List.getElem?_map, hp]
    rfl
  have hlength : c.tasks.length = o.identities.length := by
    rw [hmanned.length, hparted.length, parts, List.length_map]
  -- The strand of a task that was joined is done.
  have hstrand : ∀ {p : Nat} {identity : WorkloadIdentity}, o.identities[p]? = some identity →
      ∃ strand a, c.weave.strands[p]? = some strand ∧ strand.left = some (.done a) := by
    intro p identity hp
    have hlt := (List.getElem?_eq_some_iff.mp hp).1
    rw [← hlength] at hlt
    have htask : c.tasks[p]? = some (c.tasks[p].1, .joined) :=
      (List.getElem?_eq_getElem hlt).trans
        (congrArg some (Prod.ext rfl (hdone _ (List.getElem_mem hlt))))
    exact hmanned.done p _ _ htask (.inr rfl)
  have hlive : c.weave.strands.any (·.cancelled) = false := by
    refine List.any_eq_false.mpr fun strand hm => ?_
    obtain ⟨p, hp⟩ := List.getElem?_of_mem hm
    have hlt := (List.getElem?_eq_some_iff.mp hp).1
    rw [hparted.length] at hlt
    obtain ⟨m, hkeeps⟩ := hparted.strands p strand _ hp (List.getElem?_eq_getElem hlt)
    rw [hkeeps.live]
    exact Bool.false_ne_true
  refine ⟨?_, ⟨fun identity hm => ?_, fun P hP => hparted.rest P fun part hm => ?_⟩⟩
  · rw [summary, hlive, mergeSort_of_perm_range (hmanned.joined_perm hdone), hlength]
    congr 1
    refine filterMap_range fun p identity hp => ?_
    obtain ⟨strand, a, hs, hl⟩ := hstrand hp
    obtain ⟨rfl, hchanges, -⟩ := hparted.done hs (hpart hp) hl
    simp only [outcomeAt, hp, hs, Option.bind_eq_bind, Option.bind_some, Strand.outcome?,
      Strand.result?_eq_some.mpr hl, Option.map_some, hchanges]
    rfl
  · obtain ⟨p, hp⟩ := List.getElem?_of_mem hm
    obtain ⟨strand, a, hs, hl⟩ := hstrand hp
    exact (hparted.done hs (hpart hp) hl).2.2
  · obtain ⟨identity, hi, rfl⟩ := List.mem_map.mp hm
    exact hP identity hi

/-- Whatever the order of its steps, a crew comes to the outcomes that the identities would have
had alone, leaves what they would have left, and gives all locks back. -/
theorem crew_ends (hn : names.Distinct) {locks : LockTable Nat} (hlocks : locks.Sound)
    (hfree : locks.claims = []) (hs : s.Traced names)
    (hnames : (o.identities.map (·.displayName)).Nodup) :
    Crew.Ends names (fun _ => o.permits)
      (fun c => o.summary c = .ofOutcomes false (o.identities.map (o.outcome names s)) ∧
        o.Leaves names o.identities s c.weave.store ∧ c.weave.store.Traced names ∧
        c.weave.locks.Sound ∧ c.weave.locks.claims = [])
      (o.crew locks s) := by
  have hparts : (o.parts.map (·.name)).Nodup := by
    rw [parts, List.map_map]
    exact hnames
  refine (o.crew_manned hn hlocks hfree hs.toSound).ends
    (I := fun c => c.weave.Parted names (Uncut fun _ => True) o.parts s)
    (fun _ => Nat.le_max_left 1 _) (fun c c' _ hparted hstep => ?_)
    (fun c hmanned hparted hdone => ?_) (o.crew_parted locks hs)
  · cases hstep with
    | enter _ _ | leave _ _ _ | join _ => exact hparted
    | work _ hgo => exact hparted.step hn hparts (Weave.step_of_go hgo)
  · obtain ⟨hsummary, hleaves⟩ := summary_of_done hmanned hparted hdone
    refine ⟨hsummary, hleaves, hparted.traced, hmanned.upheld.locks, ?_⟩
    refine List.eq_nil_iff_forall_not_mem.mpr fun cl hcl => ?_
    obtain ⟨order, hworking⟩ := hmanned.claims cl hcl
    cases hdone _ (List.mem_of_getElem? hworking)

end Order

/-- Whatever the order of its steps, a crew comes to an end, and its report and the store are those
of going through the identities one after another. -/
theorem crew_as_sequence (hn : names.Distinct) {s : Store} (hs : s.Reachable names)
    {locks : LockTable Nat} (hlocks : locks.Sound) (hfree : locks.claims = []) {o : Order}
    (hvalid : o.violation? = none) (hnames : (o.identities.map (·.displayName)).Nodup) :
    Crew.Ends names (fun _ => o.permits)
      (fun c =>
        let (result, t) := o.run (behaviour names) (fun _ => false) s
        result = .ok (o.summary c) ∧ c.weave.store.SameSorted t)
      (o.crew locks s) := by
  refine (Order.crew_ends hn hlocks hfree hs.traced hnames).mono fun c hc => ?_
  obtain ⟨hsummary, hleaves, htraced, -⟩ := hc
  obtain ⟨houtcomes, htraced', hleaves'⟩ := o.runEach_leaves hn hnames hs.traced
  simp only [Order.run, hvalid]
  exact ⟨by rw [hsummary, houtcomes], hleaves.sameSorted hleaves' htraced htraced'⟩

def Order.pair : Order :=
  ⟨[⟨"payments", ["tether"], [.basic "gh-main" "https://oidc.example" "repo:acme/payments"]⟩,
    ⟨"billing", ["tether"], []⟩], .provision, false, 2⟩

theorem crew_as_sequence_two :
    Naming.counted.Distinct ∧ Store.empty.Reachable .counted ∧
    (LockTable.empty : LockTable Nat).Sound ∧ Order.pair.violation? = none ∧
    (Order.pair.identities.map (·.displayName)).Nodup ∧
    Crew.Ends .counted (fun _ => 2)
      (fun c =>
        let (result, t) := Order.pair.run (behaviour .counted) (fun _ => false) .empty
        result = .ok (Order.pair.summary c) ∧ c.weave.store.SameSorted t)
      (Order.pair.crew .empty .empty) := by
  have hvalid : Order.pair.violation? = none := by decide +kernel
  exact ⟨Naming.counted_distinct, .empty, LockTable.sound_empty, hvalid, by decide,
    crew_as_sequence Naming.counted_distinct .empty LockTable.sound_empty rfl hvalid (by decide)⟩

end Federation
