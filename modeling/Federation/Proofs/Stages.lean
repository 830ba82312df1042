import Federation.Proofs.Confirmed
import Federation.Proofs.Journal

namespace Federation

open Attempt

theorem singleton_eq_append {α : Type} {x y : α} {before after : List α}
    (h : [y] = before ++ x :: after) : before = [] ∧ x = y ∧ after = [] := by
  cases before <;> simp_all

namespace Ensuring

/-- The calls that make the object once it was not found, and what comes of them. A credential that
was added is looked up again, and to find nothing then is a failure. -/
inductive Makes : (e : Ensuring) → List Reply → Except ReconcileError e.aim.call.Answer → Prop
  | refused (e : Ensuring) (why : DirectoryError) :
    Makes e [⟨e.create, .error why⟩] (.error (.directory why))
  | application (displayName : String) (app : Application) :
    Makes (.application displayName) [⟨.createApplication displayName, .ok app⟩] (.ok app)
  | principal (app : Application) (tags : List String) (p : ServicePrincipal) :
    Makes (.principal app tags) [⟨.createServicePrincipal app.appId tags, .ok p⟩] (.ok p)
  | credential (app : Application) (spec : CredentialSpec) (c : Credential) :
    Makes (.credential app spec) [⟨.addCredential app.id spec, .ok ()⟩,
      ⟨.getCredential app.id spec.issuer spec.subject, .ok c⟩] (.ok c)
  | lost (app : Application) (spec : CredentialSpec) (why : DirectoryError) :
    Makes (.credential app spec) [⟨.addCredential app.id spec, .ok ()⟩,
      ⟨.getCredential app.id spec.issuer spec.subject, .error why⟩] (.error (.directory why))

inductive Visits (e : Ensuring) :
    List Reply → Except ReconcileError (Ensured e.aim.call.Answer) → Prop
  | found {a : e.aim.call.Answer} (h : e.foreign? a = none) :
    Visits e [⟨e.aim.call, .ok a⟩] (.ok (.existing a))
  | foreign {a : e.aim.call.Answer} {why : ReconcileError} (h : e.foreign? a = some why) :
    Visits e [⟨e.aim.call, .ok a⟩] (.error why)
  | failed {why : DirectoryError} (h : why.isNotFound = false) :
    Visits e [⟨e.aim.call, .error why⟩] (.error (.directory why))
  | made {why : DirectoryError} (h : why.isNotFound = true) {calls : List Reply}
    {r : Except ReconcileError e.aim.call.Answer} (hmade : e.Makes calls r) :
    Visits e (⟨e.aim.call, .error why⟩ :: calls) (r.map .created)

def change (displayName : String) : (e : Ensuring) → Ensured e.aim.call.Answer → Change
  | .application _, a => applicationChange displayName a
  | .principal _ _, a => principalChange displayName a
  | .credential _ spec, a => credentialChange displayName spec a

variable {e : Ensuring} {calls : List Reply}

theorem create_ne_call (e : Ensuring) : e.create ≠ e.aim.call := by
  cases e <;> exact nofun

theorem change_mutation (displayName : String) (e : Ensuring) (a : Ensured e.aim.call.Answer) :
    (e.change displayName a).isMutation = a.wasCreated := by
  cases e <;> cases a <;> rfl

theorem Makes.cons {r : Except ReconcileError e.aim.call.Answer} (h : e.Makes calls r) :
    ∃ r more, calls = ⟨e.create, r⟩ :: more := by
  cases h <;> exact ⟨_, _, rfl⟩

theorem Makes.stops {r : Except ReconcileError e.aim.call.Answer} (h : e.Makes calls r)
    {before after : List Reply} {x : Reply} {why : DirectoryError}
    (hx : calls = before ++ x :: after) (hwhy : x.outcome = .error why) :
    after = [] ∧ r = .error (.directory why) := by
  cases h with
  | refused =>
    obtain ⟨-, rfl, rfl⟩ := singleton_eq_append hx
    cases hwhy
    exact ⟨rfl, rfl⟩
  | application | principal =>
    obtain ⟨-, rfl, rfl⟩ := singleton_eq_append hx
    cases hwhy
  | credential =>
    cases before with
    | nil =>
      obtain ⟨rfl, -⟩ := List.cons.inj hx
      cases hwhy
    | cons y before =>
      obtain ⟨-, rfl, rfl⟩ := singleton_eq_append (List.cons.inj hx).2
      cases hwhy
  | lost =>
    cases before with
    | nil =>
      obtain ⟨rfl, -⟩ := List.cons.inj hx
      cases hwhy
    | cons y before =>
      obtain ⟨-, rfl, rfl⟩ := singleton_eq_append (List.cons.inj hx).2
      cases hwhy
      exact ⟨rfl, rfl⟩

variable {result : Except ReconcileError (Ensured e.aim.call.Answer)}

theorem Visits.looks (h : e.Visits calls result) :
    ∃ r rest, calls = ⟨e.aim.call, r⟩ :: rest ∧
      ((∃ why, r = .error why ∧ why.isNotFound = true) →
        ∃ r' more, rest = ⟨e.create, r'⟩ :: more) ∧
      ((∀ why, r = .error why → why.isNotFound = false) → rest = []) := by
  cases h with
  | found | foreign => exact ⟨_, [], rfl, (fun ⟨_, hr, _⟩ => nomatch hr), fun _ => rfl⟩
  | failed hfound =>
    refine ⟨_, [], rfl, ?_, fun _ => rfl⟩
    rintro ⟨why, hr, hnotFound⟩
    cases hr
    cases hfound.symm.trans hnotFound
  | made hnotFound hmade =>
    refine ⟨_, _, rfl, fun _ => hmade.cons, fun hfound => ?_⟩
    cases (hfound _ rfl).symm.trans hnotFound

/-- A failing call is the last of its stage, and the stage fails for it, unless it is the lookup
that the stage starts with and says that there is nothing. -/
theorem Visits.stops (h : e.Visits calls result) {before after : List Reply} {x : Reply}
    {why : DirectoryError} (hx : calls = before ++ x :: after) (hwhy : x.outcome = .error why) :
    (before = [] ∧ why.isNotFound = true) ∨
      (after = [] ∧ result = .error (.directory why)) := by
  cases h with
  | found | foreign =>
    obtain ⟨-, rfl, -⟩ := singleton_eq_append hx
    cases hwhy
  | failed =>
    obtain ⟨-, rfl, rfl⟩ := singleton_eq_append hx
    cases hwhy
    exact .inr ⟨rfl, rfl⟩
  | made hnotFound hmade =>
    cases before with
    | nil =>
      obtain ⟨rfl, -⟩ := List.cons.inj hx
      cases hwhy
      exact .inl ⟨rfl, hnotFound⟩
    | cons y before =>
      obtain ⟨hafter, rfl⟩ := hmade.stops (List.cons.inj hx).2 hwhy
      exact .inr ⟨hafter, rfl⟩

theorem Visits.created (h : e.Visits calls result) {a : Ensured e.aim.call.Answer}
    (ha : result = .ok a) : a.wasCreated = true ↔ ∃ r, ⟨e.create, r⟩ ∈ calls := by
  cases h with
  | found =>
    cases ha
    refine ⟨nofun, fun ⟨r, hr⟩ => ?_⟩
    exact absurd (congrArg Reply.call (List.mem_singleton.mp hr)) e.create_ne_call
  | foreign | failed => cases ha
  | @made _ _ _ r hmade =>
    obtain ⟨r', more, rfl⟩ := hmade.cons
    cases r with
    | error why => cases ha
    | ok b =>
      cases ha
      exact ⟨fun _ => ⟨r', by simp⟩, fun _ => rfl⟩

theorem Visits.either (h : e.Visits calls result) :
    ∀ x ∈ calls, x.call = e.aim.call ∨ x.call = e.create := by
  cases h with
  | found | foreign | failed => simp
  | made _ hmade => cases hmade <;> simp [Aim.call, aim, create]

theorem Visits.keeps (h : e.Visits calls result) : ∀ x ∈ calls, x.call.isDelete = false := by
  intro x hx
  obtain hcall | hcall := h.either x hx
  · cases e <;> rw [hcall] <;> rfl
  · cases e <;> rw [hcall] <;> rfl

theorem Visits.mismatch {app : Application} {tags : List String}
    {result : Except ReconcileError (Ensured (Ensuring.principal app tags).aim.call.Answer)}
    (h : (Ensuring.principal app tags).Visits calls result) {p : ServicePrincipal}
    (hp : ⟨.getServicePrincipal app.displayName, .ok p⟩ ∈ calls) (hid : p.appId ≠ app.appId) :
    calls = [⟨.getServicePrincipal app.displayName, .ok p⟩] ∧
      result = .error (.appIdMismatch app.displayName app.appId p.appId) := by
  cases h with
  | @found a hforeign =>
    cases List.mem_singleton.mp hp
    simp [foreign?, hid] at hforeign
  | @foreign a why hforeign =>
    cases List.mem_singleton.mp hp
    simp only [foreign?, if_neg hid, Option.some.injEq] at hforeign
    exact ⟨rfl, congrArg _ hforeign.symm⟩
  | failed => cases List.mem_singleton.mp hp
  | made _ hmade =>
    cases hmade <;> simp [aim, Aim.call, create] at hp

theorem Visits.of_mismatch (h : e.Visits calls result) {displayName want got : String}
    (hresult : result = .error (.appIdMismatch displayName want got)) :
    ∃ app tags p, e = .principal app tags ∧
      calls = [⟨.getServicePrincipal app.displayName, .ok p⟩] ∧ p.appId ≠ app.appId := by
  cases h with
  | found | failed => cases hresult
  | @foreign a why hforeign =>
    cases e with
    | application | credential => cases hforeign
    | principal app tags =>
      refine ⟨app, tags, a, rfl, rfl, fun hid => ?_⟩
      simp [foreign?, hid] at hforeign
  | made _ hmade => cases hmade <;> cases hresult

theorem heeds_ensure (e : Ensuring) (j : Journal) :
    Heeds (fun _ _ => True) (fun r k => ∃ calls, k = j ++ ⟨calls, []⟩ ∧ e.Visits calls r) j
      e.ensure := by
  rw [ensure_eq]
  apply Heeds.holding
  apply Heeds.afterLookup trivial
  · intro a
    dsimp only [taking]
    cases hforeign : e.foreign? a with
    | none => exact Heeds.pure ⟨_, rfl, .found hforeign⟩
    | some why => exact Heeds.throw ⟨_, rfl, .foreign hforeign⟩
  · intro why hwhy
    have hmade : ∀ {calls : List Reply} {r : Except ReconcileError e.aim.call.Answer},
        e.Makes calls r → ∃ calls', j ++ .answered e.aim.call (.error why) ++ ⟨calls, []⟩ =
          j ++ ⟨calls', []⟩ ∧ e.Visits calls' (r.map .created) :=
      fun h => ⟨_, Journal.append_assoc _ _ _, .made hwhy h⟩
    -- Only a credential takes a second call, which looks it up again.
    cases e with
    | application displayName =>
      apply Heeds.afterCall trivial
      · exact fun app => hmade (.application displayName app)
      · exact fun e => hmade (.refused (.application displayName) e)
    | principal app tags =>
      apply Heeds.afterCall trivial
      · exact fun p => hmade (.principal app tags p)
      · exact fun e => hmade (.refused (.principal app tags) e)
    | credential app spec =>
      apply Heeds.afterCall trivial
      · rintro ⟨⟩
        apply Heeds.afterCall trivial
        · intro c
          rw [Journal.append_assoc]
          exact hmade (.credential app spec c)
        · intro e
          rw [Journal.append_assoc]
          exact hmade (.lost app spec e)
      · exact fun e => hmade (.refused (.credential app spec) e)
  · exact fun why hwhy => ⟨_, rfl, .failed hwhy⟩

end Ensuring

structure Visit where
  stage : Ensuring
  calls : List Reply
  result : Except ReconcileError (Ensured stage.aim.call.Answer)

namespace Visit

def change? (displayName : String) (v : Visit) : Option Change :=
  match v.result with
  | .ok a => some (v.stage.change displayName a)
  | .error _ => none

def journal (displayName : String) (visits : List Visit) : Journal :=
  ⟨visits.flatMap (·.calls), visits.filterMap (·.change? displayName)⟩

theorem journal_cons (displayName : String) (e : Ensuring) (calls : List Reply)
    (a : Ensured e.aim.call.Answer) (visits : List Visit) :
    journal displayName (⟨e, calls, .ok a⟩ :: visits) =
      ⟨calls, []⟩ ++ (.noted (e.change displayName a) ++ journal displayName visits) := rfl

end Visit

/-- Stages are gone through in turn, up to the first that fails. -/
inductive Goes : List Ensuring → List Visit → Except ReconcileError Unit → Prop
  | done : Goes [] [] (.ok ())
  | fails {e : Ensuring} {rest : List Ensuring} {calls : List Reply} {why : ReconcileError}
    (h : e.Visits calls (.error why)) : Goes (e :: rest) [⟨e, calls, .error why⟩] (.error why)
  | passes {e : Ensuring} {rest : List Ensuring} {calls : List Reply}
    {a : Ensured e.aim.call.Answer} {visits : List Visit} {result : Except ReconcileError Unit}
    (h : e.Visits calls (.ok a)) (hrest : Goes rest visits result) :
    Goes (e :: rest) (⟨e, calls, .ok a⟩ :: visits) result

namespace Goes

variable {stages : List Ensuring} {visits : List Visit} {result : Except ReconcileError Unit}

theorem each (h : Goes stages visits result) : ∀ v ∈ visits, v.stage.Visits v.calls v.result := by
  induction h with
  | done => exact List.forall_mem_nil _
  | fails hvisits => simpa using hvisits
  | passes hvisits _ ih => exact List.forall_mem_cons.mpr ⟨hvisits, ih⟩

theorem order (h : Goes stages visits result) : visits.map (·.stage) <+: stages := by
  induction h with
  | done => exact List.prefix_rfl
  | fails => exact List.prefix_append [_] _
  | passes _ _ ih => exact (List.prefix_cons_inj _).mpr ih

theorem last (h : Goes stages visits result) {v : Visit} (hv : v ∈ visits) {why : ReconcileError}
    (hwhy : v.result = .error why) : visits.getLast? = some v ∧ result = .error why := by
  induction h with
  | done => cases hv
  | fails =>
    cases List.mem_singleton.mp hv
    cases hwhy
    exact ⟨rfl, rfl⟩
  | passes _ _ ih =>
    obtain rfl | hv := List.mem_cons.mp hv
    · cases hwhy
    · obtain ⟨hlast, hresult⟩ := ih hv
      rw [List.getLast?_cons, hlast]
      exact ⟨rfl, hresult⟩

theorem complete (h : Goes stages visits (.ok ())) (displayName : String) :
    visits.map (·.stage) = stages ∧
      (visits.filterMap (·.change? displayName)).length = stages.length := by
  generalize hresult : Except.ok () = result at h
  induction h with
  | done => exact ⟨rfl, rfl⟩
  | fails => cases hresult
  | passes _ _ ih =>
    obtain ⟨hstages, hlength⟩ := ih hresult
    exact ⟨congrArg _ hstages, congrArg (· + 1) hlength⟩

theorem partway {why : ReconcileError} (h : Goes stages visits (.error why))
    (displayName : String) :
    ∃ before v, visits = before ++ [v] ∧ v.result = .error why ∧
      (visits.filterMap (·.change? displayName)).map some =
        before.map (·.change? displayName) := by
  generalize hresult : Except.error why = result at h
  induction h with
  | done => cases hresult
  | @fails e rest calls why' _ =>
    cases hresult
    exact ⟨[], ⟨e, calls, .error why⟩, rfl, rfl, rfl⟩
  | @passes e rest calls a visits result _ _ ih =>
    obtain ⟨before, v, rfl, hv, hchanges⟩ := ih hresult
    exact ⟨⟨e, calls, .ok a⟩ :: before, v, rfl, hv, congrArg _ hchanges⟩

end Goes

def attend (displayName : String) : List Ensuring → Attempt Unit
  | [] => return
  | e :: rest => do
    let a ← e.ensure
    record (e.change displayName a)
    attend displayName rest

theorem provisionCredentials_eq (displayName : String) (app : Application)
    (specs : List CredentialSpec) :
    provisionCredentials displayName app specs =
      attend displayName (specs.map (.credential app)) := by
  induction specs with
  | nil => rfl
  | cons spec rest ih =>
    rw [provisionCredentials, ih]
    rfl

theorem heeds_attend (displayName : String) (stages : List Ensuring) (j : Journal) :
    Heeds (fun _ _ => True)
      (fun r k => ∃ visits, Goes stages visits r ∧ k = j ++ Visit.journal displayName visits) j
      (attend displayName stages) := by
  induction stages generalizing j with
  | nil => exact Heeds.pure ⟨[], .done, (Journal.append_empty j).symm⟩
  | cons e rest ih =>
    apply Heeds.andThen (e.heeds_ensure j)
    · rintro a _ ⟨calls, rfl, hvisits⟩
      apply Heeds.afterRecord
      refine (ih _).mono fun r k h => ?_
      obtain ⟨visits, hgoes, rfl⟩ := h
      refine ⟨_, .passes hvisits hgoes, ?_⟩
      rw [Visit.journal_cons, Journal.append_assoc, Journal.append_assoc]
    · rintro why _ ⟨calls, rfl, hvisits⟩
      refine ⟨_, .fails hvisits, ?_⟩
      simp [Visit.journal, Visit.change?]

def WorkloadIdentity.stages (identity : WorkloadIdentity) (app : Application) : List Ensuring :=
  .application identity.displayName :: .principal app identity.tags ::
    identity.credentials.map (.credential app)

theorem heeds_provision (identity : WorkloadIdentity) :
    Heeds (fun _ _ => True)
      (fun r j => ∃ app visits, Goes (identity.stages app) visits r ∧
        (∀ calls (a : Ensured Application),
          visits.head? = some ⟨.application identity.displayName, calls, .ok a⟩ → a.get = app) ∧
        j = Visit.journal identity.displayName visits)
      .empty (provision identity) := by
  let name := identity.displayName
  apply Heeds.andThen ((Ensuring.application name).heeds_ensure .empty)
  · rintro a _ ⟨calls, rfl, hvisits⟩
    apply Heeds.afterRecord
    rw [provisionCredentials_eq]
    let rest : List Ensuring :=
      .principal a.get identity.tags :: identity.credentials.map (.credential a.get)
    refine (heeds_attend name rest _).mono fun r j h => ?_
    obtain ⟨visits, hgoes, rfl⟩ := h
    refine ⟨a.get, _, .passes hvisits hgoes, ?_, ?_⟩
    · rintro calls' a' hhead
      cases hhead
      rfl
    · rw [Visit.journal_cons, Journal.empty_append, Journal.append_assoc]
      rfl
  -- No later stage is begun, so it makes no difference which application they would be for.
  · rintro why _ ⟨calls, rfl, hvisits⟩
    refine ⟨⟨⟨name⟩, name, name, []⟩, _, .fails hvisits, ?_, ?_⟩
    · rintro calls' a' hhead
      cases hhead
    · simp [Visit.journal, Visit.change?]

/-- The calls and changes of a run are those of its stages, one stage after another. Each begins
with its lookup, and calls for its object to be made next exactly if there is none. The first other
failure ends the run and is its result, as does a service principal of another application. -/
structure FailStop (identity : WorkloadIdentity) (app : Application) (visits : List Visit)
    (j : Journal) (result : Except ReconcileError Unit) : Prop where
  goes : Goes (identity.stages app) visits result
  application : ∀ calls (a : Ensured Application),
    visits.head? = some ⟨.application identity.displayName, calls, .ok a⟩ → a.get = app
  order : visits.map (·.stage) <+: identity.stages app
  calls : j.replies = visits.flatMap (·.calls)
  changes : j.changes = visits.filterMap (·.change? identity.displayName)
  looks : ∀ v ∈ visits, ∃ r rest, v.calls = ⟨v.stage.aim.call, r⟩ :: rest ∧
    ((∃ why, r = .error why ∧ why.isNotFound = true) →
      ∃ r' more, rest = ⟨v.stage.create, r'⟩ :: more) ∧
    ((∀ why, r = .error why → why.isNotFound = false) → rest = [])
  stops : ∀ v ∈ visits, ∀ before x after why, v.calls = before ++ x :: after →
    x.outcome = .error why →
    (before = [] ∧ why.isNotFound = true) ∨
      (after = [] ∧ visits.getLast? = some v ∧ result = .error (.directory why))
  mismatch : ∀ v ∈ visits, v.stage = .principal app identity.tags →
    ∀ p, ⟨.getServicePrincipal app.displayName, .ok p⟩ ∈ v.calls → p.appId ≠ app.appId →
    v.calls = [⟨.getServicePrincipal app.displayName, .ok p⟩] ∧ visits.getLast? = some v ∧
      result = .error (.appIdMismatch app.displayName app.appId p.appId)
  mismatched : ∀ displayName want got, result = .error (.appIdMismatch displayName want got) →
    ∃ v ∈ visits, v.stage = .principal app identity.tags ∧
      ∃ p, ⟨.getServicePrincipal app.displayName, .ok p⟩ ∈ v.calls ∧ p.appId ≠ app.appId
  keeps : ∀ x ∈ j.replies, x.call.isDelete = false
  complete : result = .ok () → visits.map (·.stage) = identity.stages app ∧
    j.changes.length = identity.credentials.length + 2
  partway : ∀ why, result = .error why → ∃ before v, visits = before ++ [v] ∧
    v.result = .error why ∧ j.changes.map some = before.map (·.change? identity.displayName)
  created : ∀ v ∈ visits, ∀ change ∈ v.change? identity.displayName,
    change.isMutation = true ↔ ∃ r, ⟨v.stage.create, r⟩ ∈ v.calls

theorem Goes.failStop {identity : WorkloadIdentity} {app : Application} {visits : List Visit}
    {result : Except ReconcileError Unit} (h : Goes (identity.stages app) visits result)
    (happ : ∀ calls (a : Ensured Application),
      visits.head? = some ⟨.application identity.displayName, calls, .ok a⟩ → a.get = app) :
    FailStop identity app visits (Visit.journal identity.displayName visits) result where
  goes := h
  application := happ
  order := h.order
  calls := rfl
  changes := rfl
  looks v hv := (h.each v hv).looks
  stops v hv before x after why hx hwhy := by
    obtain hlookup | ⟨hafter, hresult⟩ := (h.each v hv).stops hx hwhy
    · exact .inl hlookup
    · exact .inr ⟨hafter, h.last hv hresult⟩
  mismatch v hv hstage p hp hid := by
    have hvisits := h.each v hv
    obtain ⟨stage, calls, r⟩ := v
    obtain rfl : stage = .principal app identity.tags := hstage
    obtain ⟨hcalls, hresult⟩ := hvisits.mismatch hp hid
    exact ⟨hcalls, h.last hv hresult⟩
  mismatched displayName want got hresult := by
    subst hresult
    obtain ⟨before, v, rfl, hv, -⟩ := h.partway identity.displayName
    have hmem : v ∈ before ++ [v] := by simp
    obtain ⟨app', tags, p, hstage, hcalls, hid⟩ := (h.each v hmem).of_mismatch hv
    -- The only stage for a service principal is that of the application.
    have hin : v.stage ∈ identity.stages app := h.order.mem (List.mem_map_of_mem hmem)
    obtain ⟨rfl, rfl⟩ : app' = app ∧ tags = identity.tags := by
      simpa [hstage, WorkloadIdentity.stages] using hin
    exact ⟨v, hmem, hstage, p, by simp [hcalls], hid⟩
  keeps x hx := by
    obtain ⟨v, hv, hx⟩ := List.mem_flatMap.mp hx
    exact (h.each v hv).keeps x hx
  complete hresult := by
    subst hresult
    obtain ⟨hstages, hlength⟩ := h.complete identity.displayName
    refine ⟨hstages, ?_⟩
    rw [Visit.journal, hlength]
    simp [WorkloadIdentity.stages]
  partway why hresult := by
    subst hresult
    exact h.partway identity.displayName
  created v hv change hchange := by
    cases hresult : v.result with
    | error why =>
      rw [Visit.change?, hresult] at hchange
      cases hchange
    | ok a =>
      rw [Visit.change?, hresult] at hchange
      cases hchange
      rw [Ensuring.change_mutation]
      exact (h.each v hv).created hresult

/-- Whatever a directory answers, provisioning goes through its stages in turn and stops at the
first failure, with the stages before it on record. -/
theorem provision_fail_stop {σ : Type} (d : Behaviour σ) (s : σ) (identity : WorkloadIdentity) :
    let m := (provision identity).run
    ∃ app visits, FailStop identity app visits (m.journal d s) (m.run d s).1 := by
  obtain ⟨app, visits, hgoes, happ, hjournal⟩ := Routine.Heeds.run d s (heeds_provision identity)
  rw [Journal.empty_append] at hjournal
  exact ⟨app, visits, hjournal ▸ hgoes.failStop happ⟩

def forgetful : Behaviour Unit := fun c _ =>
  (match c with
    | .createApplication displayName => .ok ⟨⟨"app"⟩, "mine", displayName, []⟩
    | .createServicePrincipal appId tags => .ok ⟨⟨"sp"⟩, appId, none, tags, []⟩
    | .addCredential .. => .ok ()
    | .getApplication displayName => .error (.notFound .application displayName)
    | .getServicePrincipal displayName => .error (.notFound .servicePrincipal displayName)
    | .getCredential _ issuer subject => .error (.credentialNotFound issuer subject)
    | _ => .error (.transport .cancelled), ())

/-- A credential that is not found after it was added is not on record. -/
example : ((provision ⟨"payments", [], [.basic "gh-main" "https://oidc.example" "main"]⟩).run.run
    forgetful ()).2.1.map (·.kind) = [.applicationCreated, .principalCreated] := rfl

end Federation
