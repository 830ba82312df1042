import Federation.Proofs.Journal

namespace Federation

open Attempt

theorem countP_le_one {α : Type} {p : α → Bool} {xs : List α}
    (h : ∀ before x after, xs = before ++ x :: after → p x = true → ∀ y ∈ before, p y = false) :
    xs.countP p ≤ 1 := by
  induction xs with
  | nil => simp
  | cons x rest ih =>
    by_cases hx : p x = true
    · have hrest : rest.countP p = 0 := by
        rw [List.countP_eq_zero]
        intro y hy hp
        obtain ⟨before, after, rfl⟩ := List.append_of_mem hy
        have hfirst := h (x :: before) y after rfl hp x List.mem_cons_self
        rw [hx] at hfirst
        cases hfirst
      simp [List.countP_cons_of_pos hx, hrest]
    · have hrest := ih fun before y after he hp z hz =>
        h (x :: before) y after (congrArg _ he) hp z (List.mem_cons_of_mem _ hz)
      rwa [List.countP_cons_of_neg hx]

def Reply.Fails (x : Reply) (e : DirectoryError) : Prop :=
  x.outcome = .error e ∧ ¬ (x.call.kind.isLookup = true ∧ e.isNotFound = true)

theorem Reply.not_fails_ok (c : Call) (a : c.Answer) (e : DirectoryError) :
    ¬ Reply.Fails ⟨c, .ok a⟩ e := fun h => nomatch h.1

theorem Reply.not_fails_empty {c : Call} (hc : c.kind.isLookup = true) {e : DirectoryError}
    (he : e.isNotFound = true) (e' : DirectoryError) : ¬ Reply.Fails ⟨c, .error e⟩ e' := by
  rintro ⟨houtcome, hlookup⟩
  cases houtcome
  exact hlookup ⟨hc, he⟩

theorem Reply.succeeded {x : Reply} (hdelete : x.call.isDelete = true) (h : ∀ e, ¬ x.Fails e) :
    ∃ a, x.outcome = .ok a := by
  cases houtcome : x.outcome with
  | ok a => exact ⟨a, rfl⟩
  | error e =>
    refine absurd ⟨houtcome, fun hlookup => ?_⟩ (h e)
    cases hc : x.call <;> simp_all [Call.isDelete, Call.kind, Call.Kind.isLookup]

namespace Teardown

def searching : List Call.Kind := [.getApplication, .getCredential, .deleteCredential]

def unbinding : List Call.Kind := .getServicePrincipal :: searching

def closing : List Call.Kind := .deleteServicePrincipal :: unbinding

variable {identity : WorkloadIdentity} {app : Application} {kinds kinds' : List Call.Kind}
  {past : List Reply}

/-- The first call found the application, no call has failed, and all were of these kinds. -/
structure Underway (identity : WorkloadIdentity) (app : Application) (kinds : List Call.Kind)
    (past : List Reply) : Prop where
  found : past.head? = some ⟨.getApplication identity.displayName, .ok app⟩
  smooth : ∀ x ∈ past, ∀ e, ¬ x.Fails e
  kinds : ∀ x ∈ past, x.call.kind ∈ kinds

theorem Underway.widen (h : Underway identity app kinds past) (hkinds : kinds ⊆ kinds') :
    Underway identity app kinds' past :=
  ⟨h.found, h.smooth, fun x hx => hkinds (h.kinds x hx)⟩

theorem Underway.snoc (h : Underway identity app kinds past) {x : Reply} (hx : ∀ e, ¬ x.Fails e)
    (hkind : x.call.kind ∈ kinds) : Underway identity app kinds (past ++ [x]) := by
  constructor
  · rw [List.head?_append, h.found]
    rfl
  · intro y hy
    obtain hy | hy := List.mem_append.mp hy
    · exact h.smooth y hy
    · rwa [List.mem_singleton.mp hy]
  · intro y hy
    obtain hy | hy := List.mem_append.mp hy
    · exact h.kinds y hy
    · rwa [List.mem_singleton.mp hy]

def Sought (app : Application) (past : List Reply) (spec : CredentialSpec) : Prop :=
  ∃ r, ⟨.getCredential app.id spec.issuer spec.subject, r⟩ ∈ past

theorem Sought.append {spec : CredentialSpec} (h : Sought app past spec) (more : List Reply) :
    Sought app (past ++ more) spec := by
  obtain ⟨r, hr⟩ := h
  exact ⟨r, List.mem_append_left _ hr⟩

/-- What a teardown may call, given the answers so far. -/
inductive Warranted (identity : WorkloadIdentity) : List Reply → Call → Prop
  | start : Warranted identity [] (.getApplication identity.displayName)
  | seekCredential {app : Application} {past : List Reply} {spec : CredentialSpec}
    (h : Underway identity app searching past) (hspec : spec ∈ identity.credentials) :
    Warranted identity past (.getCredential app.id spec.issuer spec.subject)
  | deleteCredential {app : Application} {past : List Reply} {spec : CredentialSpec}
    {c : Credential} (hspec : spec ∈ identity.credentials)
    (h : Underway identity app searching
      (past ++ [⟨.getCredential app.id spec.issuer spec.subject, .ok c⟩])) :
    Warranted identity (past ++ [⟨.getCredential app.id spec.issuer spec.subject, .ok c⟩])
      (.deleteCredential app.id c.id)
  | seekPrincipal {app : Application} {past : List Reply}
    (h : Underway identity app searching past) :
    Warranted identity past (.getServicePrincipal app.displayName)
  | deletePrincipal {app : Application} {past : List Reply} {p : ServicePrincipal}
    (hid : p.appId = app.appId)
    (h : Underway identity app unbinding
      (past ++ [⟨.getServicePrincipal app.displayName, .ok p⟩])) :
    Warranted identity (past ++ [⟨.getServicePrincipal app.displayName, .ok p⟩])
      (.deleteServicePrincipal p.id)
  | deleteApplication {app : Application} {past : List Reply}
    (h : Underway identity app closing past)
    (hall : ∀ spec ∈ identity.credentials, Sought app past spec) :
    Warranted identity past (.deleteApplication app.id)

/-- How a teardown ends: there was no application, or it was deleted, or the last call failed. -/
inductive Concluded (identity : WorkloadIdentity) :
    Except ReconcileError Unit → List Reply → Prop
  | absent {e : DirectoryError} (h : e.isNotFound = true) :
    Concluded identity (.ok ()) [⟨.getApplication identity.displayName, .error e⟩]
  | deleted (past : List Reply) (app : Application) :
    Concluded identity (.ok ()) (past ++ [⟨.deleteApplication app.id, .ok ()⟩])
  | failed (past : List Reply) {x : Reply} {e : DirectoryError} (h : x.Fails e) :
    Concluded identity (.error (.directory e)) (past ++ [x])

theorem Warranted.underway {c : Call} (h : Warranted identity past c) :
    past = [] ∨ ∃ app, Underway identity app closing past := by
  have hsearching : searching ⊆ closing := by decide
  have hunbinding : unbinding ⊆ closing := by decide
  cases h with
  | start => exact .inl rfl
  | seekCredential h | deleteCredential _ h | seekPrincipal h =>
    exact .inr ⟨_, h.widen hsearching⟩
  | deletePrincipal _ h => exact .inr ⟨_, h.widen hunbinding⟩
  | deleteApplication h => exact .inr ⟨_, h⟩

theorem Warranted.smooth {c : Call} (h : Warranted identity past c) :
    ∀ x ∈ past, ∀ e, ¬ x.Fails e := by
  obtain rfl | ⟨app, hunderway⟩ := h.underway
  · exact List.forall_mem_nil _
  · exact hunderway.smooth

theorem Warranted.kept {c : Call} (h : Warranted identity past c) :
    ∀ x ∈ past, x.call.kind ≠ .deleteApplication := by
  obtain rfl | ⟨app, hunderway⟩ := h.underway
  · exact List.forall_mem_nil _
  · intro x hx hkind
    have hmem := hunderway.kinds x hx
    rw [hkind] at hmem
    exact absurd hmem (by decide)

section Heeds

variable {j : Journal}

theorem heeds_deleting {rule : List Reply → Call → Prop} {c : Call} {f : Unit → Attempt Unit}
    {post : Except ReconcileError Unit → Journal → Prop} (hc : rule j.replies c)
    (hok : ∀ a, Heeds rule post (j ++ .answered c (.ok a)) (f ()))
    (herr : ∀ e, post (.error (.directory e)) (j ++ .answered c (.error e))) :
    Heeds rule post j (deleting false c >>= f) :=
  Heeds.afterDeleting nofun (fun _ => hc) (fun _ => hok) (fun _ => herr)

def Continues (identity : WorkloadIdentity) (knows : List Reply → Prop)
    (r : Except ReconcileError Unit) (j : Journal) : Prop :=
  match r with
  | .ok () => knows j.replies
  | .error why => Concluded identity (.error why) j.replies

theorem failed_lookup {c : Call} {e : DirectoryError} (h : e.isNotFound = false) :
    Reply.Fails ⟨c, .error e⟩ e := ⟨rfl, fun hempty => by simp [h] at hempty⟩

theorem failed_delete {c : Call} {e : DirectoryError} (h : c.kind.isLookup = false) :
    Reply.Fails ⟨c, .error e⟩ e := ⟨rfl, fun hempty => by simp [h] at hempty⟩

theorem heeds_teardownCredentials (displayName : String) (done specs : List CredentialSpec)
    (hspecs : identity.credentials = done ++ specs) (h : Underway identity app searching j.replies)
    (hdone : ∀ spec ∈ done, Sought app j.replies spec) :
    Heeds (Warranted identity)
      (Continues identity fun past => Underway identity app searching past ∧
        ∀ spec ∈ identity.credentials, Sought app past spec)
      j (teardownCredentials false displayName app specs) := by
  -- What is done grows as the list of credentials that are still to be looked up shrinks.
  induction specs generalizing done j with
  | nil =>
    rw [List.append_nil] at hspecs
    exact ⟨h, hspecs ▸ hdone⟩
  | cons spec rest ih =>
    have hmem : spec ∈ identity.credentials := by simp [hspecs]
    have hrest : identity.credentials = (done ++ [spec]) ++ rest := by simp [hspecs]
    have hsought : ∀ r, ∀ other ∈ done ++ [spec], Sought app
        (j.replies ++ [⟨.getCredential app.id spec.issuer spec.subject, r⟩]) other := by
      intro r other hother
      obtain hother | hother := List.mem_append.mp hother
      · exact (hdone other hother).append _
      · rw [List.mem_singleton.mp hother]
        exact ⟨r, by simp⟩
    apply Heeds.afterLookup
    · exact .seekCredential h hmem
    · intro c
      have hfound := h.snoc (x := ⟨.getCredential app.id spec.issuer spec.subject, .ok c⟩)
        (Reply.not_fails_ok _ c) (by simp [searching, Call.kind])
      apply heeds_deleting
      · exact .deleteCredential hmem hfound
      · intro a
        have hdeleted := hfound.snoc (x := ⟨.deleteCredential app.id c.id, .ok a⟩)
          (Reply.not_fails_ok _ a) (by simp [searching, Call.kind])
        apply Heeds.afterRecord
        apply ih (done ++ [spec]) hrest
        · rwa [Journal.replies_append_noted]
        · rw [Journal.replies_append_noted]
          exact fun other ho => (hsought _ other ho).append _
      · exact fun e => .failed _ (failed_delete rfl)
    · intro e he
      refine ih (done ++ [spec]) hrest (h.snoc (Reply.not_fails_empty rfl he) ?_) (hsought _)
      simp [searching, Call.kind]
    · exact fun e he => .failed _ (failed_lookup he)

theorem heeds_teardownPrincipal (h : Underway identity app searching j.replies)
    (hall : ∀ spec ∈ identity.credentials, Sought app j.replies spec) :
    Heeds (Warranted identity)
      (Continues identity fun past => Underway identity app closing past ∧
        ∀ spec ∈ identity.credentials, Sought app past spec)
      j (teardownPrincipal false app) := by
  have hwide : Underway identity app unbinding j.replies := h.widen (by decide)
  apply Heeds.afterLookup
  · exact .seekPrincipal h
  · intro p
    have hfound := hwide.snoc (x := ⟨.getServicePrincipal app.displayName, .ok p⟩)
      (Reply.not_fails_ok _ p) (by simp [unbinding, Call.kind])
    have hclosing : Underway identity app closing
        (j.replies ++ [⟨.getServicePrincipal app.displayName, .ok p⟩]) := hfound.widen (by decide)
    by_cases hid : p.appId = app.appId
    · simp only [if_pos hid]
      apply heeds_deleting
      · exact .deletePrincipal hid hfound
      · intro a
        have hdeleted := hclosing.snoc (x := ⟨.deleteServicePrincipal p.id, .ok a⟩)
          (Reply.not_fails_ok _ a) (by simp [closing, Call.kind])
        apply Heeds.record
        rw [Continues, Journal.replies_append_noted]
        exact ⟨hdeleted, fun spec hspec => ((hall spec hspec).append _).append _⟩
      · exact fun e => .failed _ (failed_delete rfl)
    · simp only [if_neg hid]
      exact ⟨hclosing, fun spec hspec => (hall spec hspec).append _⟩
  · intro e he
    refine ⟨(hwide.snoc (Reply.not_fails_empty rfl he) ?_).widen (by decide), ?_⟩
    · simp [unbinding, Call.kind]
    · exact fun spec hspec => (hall spec hspec).append _
  · exact fun e he => .failed _ (failed_lookup he)

theorem heeds_teardown (identity : WorkloadIdentity) :
    Heeds (Warranted identity) (fun r j => Concluded identity r j.replies) .empty
      (teardown identity false) := by
  apply Heeds.afterLookup
  · exact .start
  · intro app
    have hfound : Underway identity app searching
        [⟨.getApplication identity.displayName, .ok app⟩] := by
      refine ⟨rfl, fun x hx => ?_, fun x hx => ?_⟩
      · rw [List.mem_singleton.mp hx]
        exact Reply.not_fails_ok _ app
      · rw [List.mem_singleton.mp hx]
        simp [searching, Call.kind]
    apply Heeds.andThen (heeds_teardownCredentials _ [] _ rfl hfound (List.forall_mem_nil _))
    · rintro ⟨⟩ j ⟨hunderway, hall⟩
      apply Heeds.andThen (heeds_teardownPrincipal hunderway hall)
      · rintro ⟨⟩ j ⟨hclosing, hall⟩
        apply heeds_deleting
        · exact .deleteApplication hclosing hall
        · intro a
          apply Heeds.record
          rw [Journal.replies_append_noted]
          exact .deleted _ app
        · exact fun e => .failed _ (failed_delete rfl)
      · exact fun why j h => h
    · exact fun why j h => h
  · exact fun e he => .absent he
  · exact fun e he => .failed [] (failed_lookup he)

end Heeds

/-- What is deleted, and when: a credential after it was looked up for the application that was
found first, the service principal after it was found to belong to that application, and the
application last. Nothing is called after a failure, and nothing is created. -/
structure Wary (identity : WorkloadIdentity) (log : List Reply) : Prop where
  credential : ∀ {before after : List Reply} {owner id : ObjectId} {r},
    log = before ++ ⟨.deleteCredential owner id, r⟩ :: after →
    ∃ app, log.head? = some ⟨.getApplication identity.displayName, .ok app⟩ ∧ owner = app.id ∧
      ∃ spec ∈ identity.credentials, ∃ c, id = c.id ∧
        before.getLast? = some ⟨.getCredential app.id spec.issuer spec.subject, .ok c⟩
  principal : ∀ {before after : List Reply} {id : ObjectId} {r},
    log = before ++ ⟨.deleteServicePrincipal id, r⟩ :: after →
    ∃ app, log.head? = some ⟨.getApplication identity.displayName, .ok app⟩ ∧
      ∃ p, id = p.id ∧ p.appId = app.appId ∧
        before.getLast? = some ⟨.getServicePrincipal app.displayName, .ok p⟩
  principalOnce : log.countP (·.call.kind = .deleteServicePrincipal) ≤ 1
  application : ∀ {before after : List Reply} {id : ObjectId} {r},
    log = before ++ ⟨.deleteApplication id, r⟩ :: after →
    after = [] ∧
    ∃ app, log.head? = some ⟨.getApplication identity.displayName, .ok app⟩ ∧ id = app.id ∧
      (∀ spec ∈ identity.credentials, Sought app before spec) ∧
      ∀ x ∈ before, x.call.isDelete = true → ∃ a, x.outcome = .ok a
  stops : ∀ {before after : List Reply} {x : Reply} {e : DirectoryError},
    log = before ++ x :: after → x.Fails e → after = []
  spares : ∀ x ∈ log,
    x.call.kind ∉ [.createApplication, .createServicePrincipal, .addCredential]

section Wary

variable {log before after : List Reply}

theorem Underway.head (h : Underway identity app kinds before) (hlog : log = before ++ after) :
    log.head? = some ⟨.getApplication identity.displayName, .ok app⟩ := by
  rw [hlog, List.head?_append, h.found]
  rfl

theorem Wary.of_warranted
    (h : ∀ before x after, log = before ++ x :: after → Warranted identity before x.call) :
    Wary identity log := by
  have hnext : ∀ {before after : List Reply} {x y : Reply}, log = before ++ x :: y :: after →
      Warranted identity (before ++ [x]) y.call := by
    intro before after x y hlog
    apply h _ _ after
    simp [hlog]
  constructor
  · intro before after owner id r hlog
    cases h _ _ _ hlog with
    | deleteCredential hspec hunderway =>
      exact ⟨_, hunderway.head hlog, rfl, _, hspec, _, rfl, List.getLast?_concat⟩
  · intro before after id r hlog
    cases h _ _ _ hlog with
    | deletePrincipal hid hunderway =>
      exact ⟨_, hunderway.head hlog, _, rfl, hid, List.getLast?_concat⟩
  · apply countP_le_one
    intro before x after hlog hx y hy
    obtain ⟨c, r⟩ := x
    cases h _ _ _ hlog with
    -- Such a call is not of the kinds that were made until then.
    | deletePrincipal hid hunderway =>
      refine decide_eq_false fun hkind => ?_
      have hmem := hunderway.kinds y hy
      rw [hkind] at hmem
      exact absurd hmem (by decide)
    | _ => simp [Call.kind] at hx
  · intro before after id r hlog
    have hwarranted := h _ _ _ hlog
    refine ⟨?_, ?_⟩
    · cases after with
      | nil => rfl
      | cons y after => exact absurd rfl ((hnext hlog).kept ⟨.deleteApplication id, r⟩ (by simp))
    · cases hwarranted with
      | deleteApplication hunderway hall =>
        exact ⟨_, hunderway.head hlog, rfl, hall, fun x hx hdelete =>
          Reply.succeeded hdelete (hunderway.smooth x hx)⟩
  · intro before after x e hlog hfails
    cases after with
    | nil => rfl
    | cons y after => exact absurd hfails ((hnext hlog).smooth x (by simp) e)
  · intro x hx
    obtain ⟨before, after, hlog⟩ := List.append_of_mem hx
    obtain ⟨c, r⟩ := x
    cases h _ _ _ hlog <;> simp [Call.kind]

end Wary

/-- Whatever a directory answers, a teardown deletes only what it just looked up, and the
application last. It gets through if there was no application or it was deleted, and otherwise fails
for its last call. -/
theorem teardown_wary {σ : Type} (d : Behaviour σ) (s : σ) (identity : WorkloadIdentity) :
    let log := ((teardown identity false).run.journal d s).replies
    Wary identity log ∧ Concluded identity ((teardown identity false).run.run d s).1 log := by
  have hheeds := heeds_teardown identity
  constructor
  · apply Wary.of_warranted
    intro before x after hlog
    exact Routine.Heeds.follows d s hheeds hlog
  · exact Routine.Heeds.run d s hheeds

def stranger : Behaviour Unit := fun c _ =>
  (match c with
    | .getApplication displayName => .ok ⟨⟨"app"⟩, "mine", displayName, []⟩
    | .getServicePrincipal displayName => .ok ⟨⟨"sp"⟩, "other", some displayName, [], []⟩
    | .getCredential _ issuer subject => .ok ⟨⟨"fic"⟩, "gh-main", issuer, subject, [], none, []⟩
    | .deleteCredential .. | .deleteApplication _ => .ok ()
    | _ => .error (.transport .cancelled), ())

/-- That service principal is left in place. -/
example : ((teardown ⟨"payments", [], [.basic "gh-main" "https://oidc.example" "main"]⟩
    false).run.journal stranger ()).replies.map (·.call.kind) =
      [.getApplication, .getCredential, .deleteCredential, .getServicePrincipal,
        .deleteApplication] := rfl

end Teardown

end Federation
