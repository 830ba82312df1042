import Federation.Directory.Rehearsal
import Federation.Proofs.Bookkeeping
import Federation.Proofs.Upheld
import Federation.Reconcile.Run

namespace Federation

open Store

def Strand.outcome? (strand : Strand (Except ReconcileError Unit)) (displayName : String) :
    Option IdentityOutcome :=
  strand.result?.map fun r => ⟨displayName, strand.changes, r⟩

def Order.weave (o : Order) (s : Store) : Weave (Except ReconcileError Unit) :=
  .start (o.identities.map fun identity => (o.attempt identity).run) .empty s

variable {names : Naming}

theorem isRefused_done (c : Call) (s : Store) : (Deed.done names c s).isRefused = false := by
  unfold Deed.isRefused Deed.done
  cases h : (behaviour names c s).1 with
  | ok a => rfl
  | error e => exact isCancelled_behaviour h

theorem refused_persists :
    Deed.Persists names fun cancelled d => d.isRefused = true → cancelled = true where
  done c s _ hr := by
    rw [isRefused_done] at hr
    cases hr
  refused _ _ _ := rfl
  cancel _ _ _ _ := rfl

theorem unbroken_of_not_refused {deeds : List Deed} (h : ∀ d ∈ deeds, d.isRefused = false) :
    Unbroken deeds := by
  induction deeds with
  | nil => exact .nil
  | cons d rest ih =>
    cases rest with
    | nil => exact .singleton d
    | cons e rest =>
      refine List.isChain_cons_cons.mpr ⟨fun _ => h e (by simp), ih fun x hx => h x ?_⟩
      exact List.mem_cons_of_mem _ hx

theorem Order.upheld_weave {calm : Bool} {post : Except ReconcileError Unit → Standing → Prop}
    {s : Store} (hs : s.Sound names) {o : Order}
    (ho : ∀ identity, Abides names calm post ⟨none, [], []⟩ (o.attempt identity).run) :
    (o.weave s).Upheld names calm post := by
  refine Weave.upheld_start LockTable.sound_empty rfl hs fun routine hr => ?_
  obtain ⟨identity, -, rfl⟩ := List.mem_map.mp hr
  exact ho identity

theorem order_accounts (hn : names.Distinct) {s : Store} (hs : s.Sound names) {o : Order}
    (hreal : o.dryRun = false) {w : Weave (Except ReconcileError Unit)}
    (hw : Relation.ReflTransGen (Weave.Move names) (o.weave s) w)
    {strand : Strand (Except ReconcileError Unit)} (hstrand : strand ∈ w.strands)
    {r : Except ReconcileError Unit} (hl : strand.left = some (.done r)) :
    (Unbroken strand.deeds ∧ recorded strand.changes = performed strand.deeds) ∨
      ((∃ e, r = .error e) ∧ ¬ Unbroken strand.deeds ∧
        ∃ id, performed strand.deeds = recorded strand.changes ++ [(.credentialAdded, id)]) := by
  cases ha : o.action with
  | provision =>
    have hstart : (o.weave s).Upheld names true (Settled true) := by
      refine Order.upheld_weave hs fun identity => ?_
      unfold Order.attempt
      rw [hreal, ha]
      exact provision_abides hn identity (Standing.even_start false)
    obtain ⟨hold, hpost⟩ := (hstart.moves hw).done hstrand hl
    cases r with
    | ok _ => exact .inl ⟨hpost.whole.unbroken, hpost.equal rfl⟩
    | error e =>
      obtain heven | hshort := hpost
      · exact .inl ⟨heven.whole.unbroken, heven.equal rfl⟩
      · exact .inr ⟨⟨e, rfl⟩, hshort.broken rfl, hshort.short⟩
  | teardown =>
    have hstart : (o.weave s).Upheld names false (fun _ st => st.Even false) := by
      refine Order.upheld_weave hs fun identity => ?_
      unfold Order.attempt
      rw [hreal, ha]
      exact teardown_abides identity false (Standing.even_start false)
    obtain ⟨hold, heven⟩ := (hstart.moves hw).done hstrand hl
    exact .inl ⟨heven.whole.unbroken, heven.equal rfl⟩

theorem outcome_eq_some {strand : Strand (Except ReconcileError Unit)} {displayName : String}
    {outcome : IdentityOutcome} (h : strand.outcome? displayName = some outcome) :
    strand.left = some (.done outcome.result) ∧ outcome.changes = strand.changes := by
  obtain ⟨r, hr, rfl⟩ := Option.map_eq_some_iff.mp h
  exact ⟨Strand.result?_eq_some.mp hr, rfl⟩

/-- The report of an identity tells, one for one and in order, what was done to the directory for
it, with the object ids, exactly if no call was refused right after a credential was added. If one
was, the token had been cancelled in between, and the credential is all that the report lacks. -/
theorem report_accounts (hn : names.Distinct) {s : Store} (hs : s.Reachable names) {o : Order}
    (hreal : o.dryRun = false) {w : Weave (Except ReconcileError Unit)}
    (hw : Relation.ReflTransGen (Weave.Move names) (o.weave s) w)
    {strand : Strand (Except ReconcileError Unit)} (hstrand : strand ∈ w.strands)
    {displayName : String} {outcome : IdentityOutcome}
    (ho : strand.outcome? displayName = some outcome) :
    (recorded outcome.changes = performed strand.deeds ↔ Unbroken strand.deeds) ∧
    (¬ Unbroken strand.deeds → strand.cancelled = true ∧
      (∃ e, outcome.result = .error e) ∧
      ∃ id, performed strand.deeds = recorded outcome.changes ++ [(.credentialAdded, id)]) := by
  obtain ⟨hl, hchanges⟩ := outcome_eq_some ho
  rw [hchanges]
  obtain ⟨hwhole, hequal⟩ | ⟨herror, hbroken, id, hshort⟩ :=
    order_accounts hn hs.sound hreal hw hstrand hl
  · exact ⟨iff_of_true hequal hwhole, fun hbroken => absurd hwhole hbroken⟩
  · refine ⟨iff_of_false (fun hequal => ?_) hbroken, fun _ => ⟨?_, herror, id, hshort⟩⟩
    · rw [← hequal] at hshort
      simp at hshort
    · by_contra hc
      have hlate := Weave.Each.moves refused_persists hs.sound (Weave.each_start _ _ _) hw
        strand hstrand
      refine hbroken (unbroken_of_not_refused fun d hd => ?_)
      by_contra hr
      exact hc (hlate d hd (by simpa using hr))

namespace Cut

def order : Order :=
  ⟨[⟨"payments", ["tether"], [.basic "gh-main" "https://oidc.example" "repo:acme/payments"]⟩],
    .provision, false, 1⟩

def before : Weave (Except ReconcileError Unit) :=
  ((order.weave .empty).follow .counted (List.replicate 19 0)).get rfl

def added : Strand (Except ReconcileError Unit) := before.strands.get ⟨0, by decide⟩

def after : Weave (Except ReconcileError Unit) :=
  ((before.put 0 { added with cancelled := true }).follow .counted [0, 0]).get rfl

def ended : Strand (Except ReconcileError Unit) := after.strands.get ⟨0, by decide⟩

theorem moves : Relation.ReflTransGen (Weave.Move .counted) (order.weave .empty) after := by
  have hbefore : Relation.ReflTransGen (Weave.Step .counted) (order.weave .empty) before :=
    Weave.steps_of_follow (Option.some_get _).symm
  have hafter : Relation.ReflTransGen (Weave.Step .counted)
      (before.put 0 { added with cancelled := true }) after :=
    Weave.steps_of_follow (Option.some_get _).symm
  exact (Weave.moves_of_steps hbefore).trans (.head (.cancel rfl) (Weave.moves_of_steps hafter))

theorem not_unbroken : ¬ Unbroken ended.deeds := by decide

end Cut

/-- A run that is cancelled right after it added a credential: the report lacks the credential. -/
theorem report_accounts_cut :
    Naming.counted.Distinct ∧ Store.empty.Reachable .counted ∧ Cut.order.dryRun = false ∧
    Relation.ReflTransGen (Weave.Move .counted) (Cut.order.weave .empty) Cut.after ∧
    Cut.ended ∈ Cut.after.strands ∧
    ∃ outcome, Cut.ended.outcome? "payments" = some outcome ∧
      recorded outcome.changes ≠ performed Cut.ended.deeds ∧ Cut.ended.cancelled = true ∧
      ∃ id, performed Cut.ended.deeds = recorded outcome.changes ++ [(.credentialAdded, id)] := by
  have hmem : Cut.ended ∈ Cut.after.strands := List.getElem_mem _
  have ho : Cut.ended.outcome? "payments" = some ⟨"payments", Cut.ended.changes, _⟩ := rfl
  have haccounts := report_accounts Naming.counted_distinct .empty rfl Cut.moves hmem ho
  obtain ⟨hcancelled, -, hshort⟩ := haccounts.2 Cut.not_unbroken
  exact ⟨Naming.counted_distinct, .empty, rfl, Cut.moves, hmem, _, ho,
    mt haccounts.1.mp Cut.not_unbroken, hcancelled, hshort⟩

/-- The same run with the token cancelled by the directory: the credential is there afterwards, and
the report of the run does not have it. -/
theorem report_lacks_addition :
    let (result, r) := Cut.order.run (RehearsedStore.behaviour .counted) (·.cancelled)
      (RehearsedStore.empty.prepare [⟨.addCredential, 0, true, none⟩])
    Cut.order.violation? = none ∧ r.store.credentials.length = 1 ∧
    ∃ summary, result = .ok summary ∧ summary.cancelled = true ∧
      ∀ c ∈ summary.changes, c.kind ≠ .credentialAdded :=
  ⟨by decide +kernel, rfl, _, rfl, rfl, by decide⟩

end Federation
