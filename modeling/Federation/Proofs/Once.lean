import Federation.Proofs.Crowd
import Federation.Proofs.Ensure
import Federation.Proofs.Turns
import Federation.Proofs.Unique

namespace Federation

open Attempt Store

variable {α β : Type} {names : Naming}

theorem Routine.Lockless.andThen {m : Attempt α} {f : α → Attempt β} (hm : m.run.Lockless)
    (hf : ∀ a, (f a).run.Lockless) : (m >>= f).run.Lockless := by
  refine Routine.Lockless.bind hm fun r => ?_
  cases r with
  | ok a => exact hf a
  | error e => trivial

theorem lockless_lookup (c : Call) : (lookup c).run.Lockless := fun _ => trivial

theorem lockless_perform (c : Call) : (perform c).run.Lockless := fun _ => trivial

theorem guarded_map {m : Attempt α} {key : String} (h : m.run.Guarded key) (f : α → β) :
    (do return f (← m) : Attempt β).run.Guarded key := by
  obtain ⟨body, hb, hm⟩ := h
  refine ⟨body.bind fun r => .done (r.map f), hb.bind fun _ => trivial, ?_⟩
  change m.run.bind (ExceptT.bindCont fun a => pure (f a)) = _
  rw [hm]
  simp only [Routine.locked, Routine.under, Routine.bind, Routine.bind_assoc]
  congr 2
  funext r
  cases r <;> rfl

theorem ensureApplication_guarded (displayName : String) :
    (ensureApplication displayName).run.Guarded (applicationKey displayName) := by
  refine ⟨_, ?_, rfl⟩
  refine .andThen (lockless_lookup _) fun app => ?_
  cases app with
  | some app => trivial
  | none => exact .andThen (lockless_perform _) fun _ => trivial

theorem ensureServicePrincipal_guarded (app : Application) (tags : List String) :
    (ensureServicePrincipal app tags).run.Guarded (principalKey app.displayName) := by
  refine ⟨_, ?_, rfl⟩
  refine .andThen (lockless_lookup _) fun principal => ?_
  cases principal with
  | some principal =>
    by_cases ha : principal.appId = app.appId
    · simp only [ha, ↓reduceIte]
      trivial
    · simp only [ha, ↓reduceIte]
      trivial
  | none => exact .andThen (lockless_perform _) fun _ => trivial

theorem ensureCredential_guarded (app : Application) (spec : CredentialSpec) :
    (ensureCredential app spec).run.Guarded
      (credentialKey app.id spec.issuer spec.subject) := by
  refine ⟨_, ?_, rfl⟩
  refine .andThen (lockless_lookup _) fun c => ?_
  cases c with
  | some c => trivial
  | none =>
    exact .andThen (lockless_perform _) fun _ => .andThen (lockless_perform _) fun _ => trivial

namespace Ensuring

theorem guarded (e : Ensuring) : e.attempt.run.Guarded e.aim.key := by
  cases e with
  | application displayName => exact guarded_map (ensureApplication_guarded displayName) _
  | principal app tags => exact guarded_map (ensureServicePrincipal_guarded app tags) _
  | credential app spec => exact guarded_map (ensureCredential_guarded app spec) _

/-- Alone, an attempt fails and leaves the store as it is; or the object was there; or it was not,
is created, and is found by the next. -/
inductive Alone (names : Naming) (e : Ensuring) (s : Store) : Prop
  | fails {why : ReconcileError}
      (h : e.attempt.run.run (behaviour names) s = (.error why, [], s))
  | finds {id : ObjectId} (h : e.attempt.run.run (behaviour names) s = (.ok (.existing id), [], s))
      (hthere : e.aim.ids s ≠ [])
  | creates {id : ObjectId} {t : Store}
      (h : e.attempt.run.run (behaviour names) s = (.ok (.created id), [], t))
      (habsent : e.aim.ids s = [])
      (hnext : e.attempt.run.run (behaviour names) t = (.ok (.existing id), [], t))

theorem alone_application (displayName : String) (s : Store) :
    (Ensuring.application displayName).Alone names s := by
  have hrun := fun s => run_ensureApplication names displayName s
  cases hf : s.applications.find? (·.displayName = displayName) with
  | some app =>
    have h := hrun s
    rw [hf] at h
    refine .finds (run_map _ _ h _) (List.ne_nil_of_mem (mem_map_filter_of_find? (·.id) hf))
  | none =>
    have h := hrun s
    rw [hf] at h
    have hnext := hrun (s.createApplication names displayName).2
    have hfound : (s.createApplication names displayName).2.applications.find?
        (·.displayName = displayName) = some (names.application displayName
          (s.minted.count (.application displayName))) := by
      simp [createApplication, List.find?_append, hf, Naming.application]
    rw [hfound] at hnext
    exact .creates (run_map _ _ h _) (map_filter_of_find?_none _ hf) (run_map _ _ hnext _)

theorem createServicePrincipal_found (hn : names.Distinct) {app : Application}
    (happ : names.Makes app) (tags : List String) {s : Store} (hs : s.Sound names)
    (hf : s.principals.find? (·.displayName = some app.displayName) = none) {found : Application}
    (ha : s.applications.find? (·.appId = app.appId) = some found) :
    ∃ principal t, s.createServicePrincipal names app.appId tags = (.ok principal, t) ∧
      principal.appId = app.appId ∧
      t.principals.find? (·.displayName = some app.displayName) = some principal := by
  have hname : found.displayName = app.displayName := by
    have hc : s.creation names (.createServicePrincipal app.appId tags) =
        some (.principal found.displayName, _) := congrArg (Option.map _) ha
    exact Aim.principal.inj (creation_principal hn happ hs hc)
  unfold createServicePrincipal
  rw [ha]
  refine ⟨_, _, rfl, rfl, ?_⟩
  simp [List.find?_append, hf, hname]

theorem alone_principal (hn : names.Distinct) {app : Application} (happ : names.Makes app)
    (tags : List String) {s : Store} (hs : s.Sound names) :
    (Ensuring.principal app tags).Alone names s := by
  have hrun := fun s => run_ensureServicePrincipal names app tags s
  cases hf : s.principals.find? (·.displayName = some app.displayName) with
  | some principal =>
    have h := hrun s
    rw [hf] at h
    by_cases ha : principal.appId = app.appId
    · simp only [ha, ↓reduceIte] at h
      exact .finds (run_map _ _ h _) (List.ne_nil_of_mem (mem_map_filter_of_find? (·.id) hf))
    · simp only [ha, ↓reduceIte] at h
      exact .fails (run_map _ _ h _)
  | none =>
    have h := hrun s
    rw [hf] at h
    cases ha : s.applications.find? (·.appId = app.appId) with
    | none =>
      have hcreate : s.createServicePrincipal names app.appId tags =
          (.error (noSuchApplication app.appId), s) := by
        simp only [createServicePrincipal, ha]
      rw [hcreate] at h
      exact .fails (run_map _ _ h _)
    | some found =>
      obtain ⟨principal, t, hcreate, happId, hfound⟩ :=
        createServicePrincipal_found hn happ tags hs hf ha
      rw [hcreate] at h
      have hnext := hrun t
      rw [hfound] at hnext
      simp only [happId, ↓reduceIte] at hnext
      exact .creates (run_map _ _ h _) (map_filter_of_find?_none _ hf) (run_map _ _ hnext _)

theorem alone_credential (app : Application) (spec : CredentialSpec) (s : Store) :
    (Ensuring.credential app spec).Alone names s := by
  cases ha : s.hasApplication app.id with
  | false =>
    exact .fails (run_map _ _ (run_ensureCredential_stray names app spec s ha) _)
  | true =>
    have h := run_ensureCredential names app spec s ha
    cases hf : (s.credentialsOf app.id).find? (·.answers spec.issuer spec.subject) with
    | some c =>
      rw [hf] at h
      exact .finds (run_map _ _ h _) (List.ne_nil_of_mem (mem_map_filter_of_find? (·.id) hf))
    | none =>
      rw [hf] at h
      cases hname : (s.credentialsOf app.id).any (·.name = spec.name) with
      | true =>
        simp only [hname, ↓reduceIte] at h
        exact .fails (run_map _ _ h _)
      | false =>
        simp only [hname, Bool.false_eq_true, ↓reduceIte] at h
        have hnext := run_ensureCredential names app spec (s.addCredential names app.id spec).2
          (by rw [hasApplication_add, ha])
        have hfound : ((s.addCredential names app.id spec).2.credentialsOf app.id).find?
            (·.answers spec.issuer spec.subject) = some (s.credential names app.id spec) := by
          rw [credentialsOf_add names app.id spec ha hname, List.find?_append, hf]
          simp [credential_answers]
        rw [hfound] at hnext
        exact .creates (run_map _ _ h _) (map_filter_of_find?_none _ hf) (run_map _ _ hnext _)

theorem alone (hn : names.Distinct) (e : Ensuring) (happ : ∀ app ∈ e.application?, names.Makes app)
    {s : Store} (hs : s.Sound names) : e.Alone names s := by
  cases e with
  | application displayName => exact alone_application displayName s
  | principal app tags => exact alone_principal hn (happ app rfl) tags hs
  | credential app spec => exact alone_credential app spec s

end Ensuring

theorem Routine.serially_fixed {m : Routine α} {s : Store} {a : α} {changes : List Change}
    (h : m.run (behaviour names) s = (a, changes, s)) (k : Nat) :
    m.serially names s k = (List.replicate k a, s) := by
  induction k with
  | zero => rfl
  | succ k ih =>
    simp only [serially, ih, h]
    rw [List.replicate_succ']

theorem Routine.serially_once {m : Routine α} {s t : Store} {a b : α}
    {changes more : List Change} (h : m.run (behaviour names) s = (a, changes, t))
    (hnext : m.run (behaviour names) t = (b, more, t)) (k : Nat) :
    m.serially names s (k + 1) = (a :: List.replicate k b, t) := by
  induction k with
  | zero => simp [serially, h]
  | succ k ih =>
    rw [serially, ih]
    simp only [hnext]
    rw [List.replicate_succ', List.cons_append]

def isCreated : Except ReconcileError (Ensured ObjectId) → Bool
  | .ok e => e.wasCreated
  | .error _ => false

/-- All fail, or all come to one object, which one of them created if it was absent. -/
def Agreed (absent : Prop) [Decidable absent]
    (results : List (Except ReconcileError (Ensured ObjectId))) : Prop :=
  (∀ r ∈ results, ∃ why, r = .error why) ∨
    ∃ id, (∀ r ∈ results, ∃ e, r = .ok e ∧ e.get = id) ∧
      results.countP isCreated = if absent then 1 else 0

theorem Agreed.of_perm {absent : Prop} [Decidable absent]
    {results results' : List (Except ReconcileError (Ensured ObjectId))}
    (h : Agreed absent results') (hp : results.Perm results') : Agreed absent results := by
  obtain hfail | ⟨id, hsame, hcount⟩ := h
  · exact .inl fun r hr => hfail r (hp.mem_iff.mp hr)
  · exact .inr ⟨id, fun r hr => hsame r (hp.mem_iff.mp hr), by rw [hp.countP_eq, hcount]⟩

theorem Ensuring.Alone.agreed {e : Ensuring} {s : Store} (h : e.Alone names s) (n : Nat) :
    Agreed (e.aim.ids s = []) (e.attempt.run.serially names s n).1 := by
  cases h with
  | @fails why h =>
    rw [Routine.serially_fixed h]
    exact .inl fun r hr => ⟨why, List.eq_of_mem_replicate hr⟩
  | @finds id h hthere =>
    rw [Routine.serially_fixed h]
    refine .inr ⟨id, fun r hr => ⟨_, List.eq_of_mem_replicate hr, rfl⟩, ?_⟩
    rw [if_neg hthere, List.countP_replicate]
    rfl
  | @creates id t h habsent hnext =>
    cases n with
    | zero => exact .inl fun r hr => (nomatch hr)
    | succ k =>
      rw [Routine.serially_once h hnext]
      refine .inr ⟨id, fun r hr => ?_, ?_⟩
      · obtain rfl | hr := List.mem_cons.mp hr
        · exact ⟨_, rfl, rfl⟩
        · exact ⟨_, List.eq_of_mem_replicate hr, rfl⟩
      · rw [if_pos habsent, List.countP_cons, List.countP_replicate]
        rfl

/-- When callers who ensure one object together have come to their end, they agree. -/
theorem agreed_of_idle (hn : names.Distinct) {e : Ensuring}
    (happ : ∀ app ∈ e.application?, names.Makes app) {locks : LockTable Nat} (hlocks : locks.Sound)
    (hfree : locks.claims = []) {s : Store} (hs : s.Sound names) {n : Nat}
    {w : Weave (Except ReconcileError (Ensured ObjectId))}
    (hw : Relation.ReflTransGen (Weave.Step names)
      (.start (List.replicate n e.attempt.run) locks s) w) (hidle : w.Idle) :
    w.results.length = n ∧ Agreed (e.aim.ids s = []) w.results := by
  obtain ⟨hresults, -⟩ := Weave.guarded_serial e.guarded hlocks hfree hw hidle
  constructor
  · rw [hresults.length_eq, Routine.serially_length]
  · exact ((e.alone hn happ hs).agreed n).of_perm hresults

theorem follow_agreed (hn : names.Distinct) {e : Ensuring}
    (happ : ∀ app ∈ e.application?, names.Makes app) {s : Store} (hs : s.Sound names) {n : Nat}
    {schedule : List Nat} {crowd : Crowd (Except ReconcileError (Ensured ObjectId)) Store}
    (hcrowd : crowd = (Crowd.start (List.replicate n e.attempt.run) s).follow (behaviour names)
      schedule) (hdone : ∀ m ∈ crowd.strands, ∃ a, m.1 = .done a) :
    crowd.results.length = n ∧ Agreed (e.aim.ids s = []) crowd.results := by
  obtain ⟨w, hw, hwoven⟩ := Crowd.woven_follow (List.replicate n e.attempt.run) schedule s
  rw [← hcrowd] at hwoven
  rw [← hwoven.results]
  exact agreed_of_idle hn happ LockTable.sound_empty rfl hs hw (hwoven.idle hdone)

/-- In whatever order errands go on, and whichever of them are cancelled or given up, at most one
application and at most one service principal go by a display name, and at most one credential of
an application by an issuer and a subject. When nothing is under way, any number of callers that
ensure one object together can come to their end, and then they agree. -/
theorem ensured_once (hn : names.Distinct) {w : Weave (Except ReconcileError Unit)}
    (hw : w.Reached names) :
    (∀ aim : Aim, (aim.ids w.store).length ≤ 1) ∧
    (w.Idle → ∀ e : Ensuring, (∀ app ∈ e.application?, w.Gave app) → ∀ n w',
      Relation.ReflTransGen (Weave.Step names)
        (.start (List.replicate n e.attempt.run) w.locks w.store) w' →
      (∃ w'', Relation.ReflTransGen (Weave.Step names) w' w'' ∧ w''.Idle) ∧
      (w'.Idle → w'.results.length = n ∧ Agreed (e.aim.ids w.store = []) w'.results)) := by
  refine ⟨hw.ids_le_one hn, fun hidle e happ n w' hw' => ?_⟩
  obtain ⟨hupheld, heach⟩ := hw.upheld hn
  have hfree := hupheld.claims_of_idle hidle
  have hmakes : ∀ app ∈ e.application?, names.Makes app := by
    intro app ha
    obtain ⟨strand, hs, d, hd, hgave⟩ := happ app ha
    exact heach strand hs d hd app hgave
  exact ⟨Weave.guarded_ends e.guarded hupheld.locks hfree hw',
    agreed_of_idle hn hmakes hupheld.locks hfree hupheld.store hw'⟩

namespace Pair

def errand : Errand :=
  .attend ⟨[⟨"payments", ["tether"], []⟩], .provision, false, 1⟩ ⟨"payments", ["tether"], []⟩

def joined : Weave (Except ReconcileError Unit) :=
  ⟨[.start errand.attempt.run], .empty, .empty⟩

def before : Weave (Except ReconcileError Unit) :=
  (joined.follow .counted (List.replicate 14 0)).get rfl

theorem reached : before.Reached .counted := by
  have hjoined : joined.Reached .counted := .join (e := errand) .start (fun _ h => (nomatch h))
  exact hjoined.steps (Weave.steps_of_follow (Option.some_get _).symm)

def app : Application := Naming.counted.application "payments" 0

def ensuring : Ensuring :=
  .credential app (.basic "gh-main" "https://oidc.example" "repo:acme/payments")

def after : Weave (Except ReconcileError (Ensured ObjectId)) :=
  ((Weave.start (List.replicate 2 ensuring.attempt.run) before.locks before.store).follow .counted
    [0, 1, 0, 0, 0, 0, 0, 0, 1, 1, 1, 1]).get rfl

theorem before_idle : before.Idle := by
  intro strand hs routine hl
  obtain rfl := List.mem_singleton.mp hs
  cases hl
  exact ⟨_, rfl⟩

theorem before_gave : before.Gave app :=
  ⟨_, List.mem_singleton_self _, _, List.mem_cons_of_mem _ List.mem_cons_self, rfl⟩

theorem after_idle : after.Idle := by
  intro strand hs routine hl
  obtain rfl | hs := List.mem_cons.mp hs
  · cases hl
    exact ⟨_, rfl⟩
  · obtain rfl := List.mem_singleton.mp hs
    cases hl
    exact ⟨_, rfl⟩

end Pair

/-- Two callers who ensure a credential of an application that was provisioned before. -/
theorem ensured_once_pair :
    Naming.counted.Distinct ∧ Pair.before.Reached .counted ∧ Pair.before.Idle ∧
    Pair.before.Gave Pair.app ∧ Pair.after.Idle ∧ Pair.after.results.length = 2 ∧
    Agreed (Pair.ensuring.aim.ids Pair.before.store = []) Pair.after.results := by
  have hw := ensured_once Naming.counted_distinct Pair.reached
  have happ : ∀ app ∈ Pair.ensuring.application?, Pair.before.Gave app := by
    rintro app ⟨⟩
    exact Pair.before_gave
  have hsteps : Relation.ReflTransGen (Weave.Step .counted)
      (.start (List.replicate 2 Pair.ensuring.attempt.run) Pair.before.locks Pair.before.store)
      Pair.after := Weave.steps_of_follow (Option.some_get _).symm
  obtain ⟨-, hagree⟩ := hw.2 Pair.before_idle Pair.ensuring happ 2 Pair.after hsteps
  exact ⟨Naming.counted_distinct, Pair.reached, Pair.before_idle, Pair.before_gave,
    Pair.after_idle, hagree Pair.after_idle⟩

end Federation
