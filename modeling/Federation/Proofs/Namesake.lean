import Federation.Proofs.Stages

namespace Federation

open Attempt

def Change.displayName : Change → String
  | .applicationCreated n _ | .applicationUnchanged n _ | .applicationDeleted n _
  | .principalCreated n _ | .principalUnchanged n _ | .principalDeleted n _
  | .credentialAdded n _ _ _ _ | .credentialUnchanged n _ _ | .credentialDeleted n _ _
  | .identityAbsent n => n

def Call.name? : Call → Option String
  | .getApplication n | .getServicePrincipal n => some n
  | _ => none

def Reply.application? : Reply → Option Application
  | ⟨.getApplication _, r⟩ | ⟨.createApplication _, r⟩ => r.toOption
  | _ => none

def Journal.application? (j : Journal) : Option Application := j.replies.findSome? (·.application?)

theorem Journal.application?_append {j : Journal} {app : Application}
    (h : j.application? = some app) (k : Journal) : (j ++ k).application? = some app := by
  rw [application?, replies_append, List.findSome?_append, ← application?, h]
  rfl

variable {identity : WorkloadIdentity}

def Loyal (identity : WorkloadIdentity) (j : Journal) : Prop :=
  (∀ x ∈ j.replies, ∀ n ∈ x.call.name?, n = identity.displayName) ∧
    ∀ change ∈ j.changes, change.displayName = identity.displayName

instance (j : Journal) : Decidable (Loyal identity j) := inferInstanceAs (Decidable (_ ∧ _))

/-- The name that the service principal goes by: a plan takes the declared one, and otherwise it is
that of the application. -/
inductive PrincipalName (identity : WorkloadIdentity) (j : Journal) : Bool → String → Prop
  | declared : PrincipalName identity j true identity.displayName
  | given {app : Application} (h : j.application? = some app) :
    PrincipalName identity j false app.displayName

def Call.Fits (identity : WorkloadIdentity) (j : Journal) (planned : Bool) : Call → Prop
  | .getApplication n => n = identity.displayName
  | .getServicePrincipal n => PrincipalName identity j planned n
  | _ => True

/-- Only the deletion of a service principal may be reported by the name that it goes by. -/
def Change.Fits (identity : WorkloadIdentity) (j : Journal) (planned : Bool) (change : Change) :
    Prop :=
  change.displayName = identity.displayName ∨
    change.kind = .principalDeleted ∧ PrincipalName identity j planned change.displayName

structure Stays (identity : WorkloadIdentity) (planned : Bool) (j : Journal) : Prop where
  calls : ∀ x ∈ j.replies, x.call.Fits identity j planned
  changes : ∀ change ∈ j.changes, change.Fits identity j planned

variable {planned : Bool} {j : Journal}

theorem PrincipalName.append {n : String} (h : PrincipalName identity j planned n) (k : Journal) :
    PrincipalName identity (j ++ k) planned n := by
  cases h with
  | declared => exact .declared
  | given happ => exact .given (Journal.application?_append happ k)

theorem Call.Fits.append {c : Call} (h : c.Fits identity j planned) (k : Journal) :
    c.Fits identity (j ++ k) planned := by
  cases c with
  | getServicePrincipal n => exact PrincipalName.append h k
  | _ => exact h

theorem Change.Fits.append {change : Change} (h : change.Fits identity j planned) (k : Journal) :
    change.Fits identity (j ++ k) planned := by
  obtain hname | ⟨hkind, hname⟩ := h
  · exact .inl hname
  · exact .inr ⟨hkind, hname.append k⟩

namespace Stays

theorem empty : Stays identity planned .empty :=
  ⟨List.forall_mem_nil _, List.forall_mem_nil _⟩

theorem append {k : Journal} (h : Stays identity planned j)
    (hcalls : ∀ x ∈ k.replies, x.call.Fits identity (j ++ k) planned)
    (hchanges : ∀ change ∈ k.changes, change.Fits identity (j ++ k) planned) :
    Stays identity planned (j ++ k) := by
  constructor
  · intro x hx
    obtain hx | hx := List.mem_append.mp hx
    · exact (h.calls x hx).append k
    · exact hcalls x hx
  · intro change hchange
    obtain hchange | hchange := List.mem_append.mp hchange
    · exact (h.changes change hchange).append k
    · exact hchanges change hchange

theorem answered (h : Stays identity planned j) {c : Call} (hc : c.Fits identity j planned)
    (r : c.Outcome) : Stays identity planned (j ++ .answered c r) :=
  h.append (List.forall_mem_singleton.mpr (hc.append _)) (List.forall_mem_nil _)

theorem noted (h : Stays identity planned j) {change : Change}
    (hname : change.displayName = identity.displayName) :
    Stays identity planned (j ++ .noted change) :=
  h.append (List.forall_mem_nil _) (List.forall_mem_singleton.mpr (.inl hname))

end Stays

abbrev Remains (identity : WorkloadIdentity) (planned : Bool) : Journal → Attempt Unit → Prop :=
  Heeds (fun _ _ => True) (fun _ j => Stays identity planned j)

theorem remains_planAll (h : Stays identity planned j) :
    Remains identity planned j (planAll identity) := by
  have hspecs : ∀ (specs : List CredentialSpec) {j : Journal}, Stays identity planned j →
      Remains identity planned j
        (specs.forM fun spec => record (addedChange identity.displayName spec none)) := by
    intro specs
    induction specs with
    | nil => exact fun h => h
    | cons spec rest ih => exact fun h => Heeds.afterRecord (ih (h.noted rfl))
  apply Heeds.afterRecord
  apply Heeds.afterRecord
  exact hspecs _ ((h.noted rfl).noted rfl)

theorem remains_planCredentials (app : Application) (specs : List CredentialSpec)
    (h : Stays identity planned j) :
    Remains identity planned j (planCredentials identity.displayName app specs) := by
  induction specs generalizing j with
  | nil => exact Heeds.pure h
  | cons spec rest ih =>
    have hlooked : ∀ r, Stays identity planned
        (j ++ .answered (.getCredential app.id spec.issuer spec.subject) r) := h.answered trivial
    apply Heeds.afterLookup trivial
    · exact fun c => Heeds.afterRecord (ih ((hlooked _).noted rfl))
    · exact fun e _ => Heeds.afterRecord (ih ((hlooked _).noted rfl))
    · exact fun e _ => hlooked _

theorem remains_planProvision (identity : WorkloadIdentity) :
    Remains identity true .empty (planProvision identity) := by
  have hstart : ∀ r, Stays identity true
      (.empty ++ .answered (.getApplication identity.displayName) r) := Stays.empty.answered rfl
  apply Heeds.afterLookup trivial
  · intro app
    have happ : Stays identity true (.empty ++ .answered _ (.ok app) ++
        .noted (.applicationUnchanged identity.displayName app.id)) := (hstart (.ok app)).noted rfl
    have hlooked := happ.answered (c := .getServicePrincipal identity.displayName) .declared
    apply Heeds.afterRecord
    apply Heeds.afterLookup trivial
    · intro p
      by_cases hid : p.appId = app.appId
      · simp only [if_pos hid]
        exact Heeds.afterRecord (remains_planCredentials app _ ((hlooked _).noted rfl))
      · simp only [if_neg hid]
        exact Heeds.throw (hlooked _)
    · exact fun e _ => Heeds.afterRecord (remains_planCredentials app _ ((hlooked _).noted rfl))
    · exact fun e _ => hlooked _
  · exact fun e _ => remains_planAll (hstart _)
  · exact fun e _ => hstart _

section Teardown

variable {dryRun : Bool} {app : Application}

/-- The run stays with the name, and goes by the application. -/
structure Holds (identity : WorkloadIdentity) (app : Application) (j : Journal) : Prop where
  stays : Stays identity false j
  given : j.application? = some app

theorem Holds.answered (h : Holds identity app j) {c : Call} (hc : c.Fits identity j false)
    (r : c.Outcome) : Holds identity app (j ++ .answered c r) :=
  ⟨h.stays.answered hc r, Journal.application?_append h.given _⟩

theorem Holds.noted (h : Holds identity app j) {change : Change}
    (hname : change.displayName = identity.displayName) :
    Holds identity app (j ++ .noted change) :=
  ⟨h.stays.noted hname, Journal.application?_append h.given _⟩

theorem Holds.notedPrincipal (h : Holds identity app j) (id : ObjectId) :
    Holds identity app (j ++ .noted (.principalDeleted app.displayName id)) := by
  have happ := Journal.application?_append h.given (.noted (.principalDeleted app.displayName id))
  refine ⟨h.stays.append (List.forall_mem_nil _) ?_, happ⟩
  exact List.forall_mem_singleton.mpr (.inr ⟨rfl, .given happ⟩)

abbrev Upholds (identity : WorkloadIdentity) (app : Application) : Journal → Attempt Unit → Prop :=
  Heeds (fun _ _ => True) fun _ j => Holds identity app j

theorem Holds.deleting (h : Holds identity app j) {c : Call} (hc : c.name? = none)
    {f : Unit → Attempt Unit}
    (hf : ∀ {k}, Holds identity app k → Upholds identity app k (f ())) :
    Upholds identity app j (deleting dryRun c >>= f) := by
  have hfits : c.Fits identity j false := by cases c <;> trivial
  apply Heeds.afterDeleting
  · exact fun _ => hf h
  · exact fun _ => trivial
  · exact fun _ a => hf (h.answered hfits _)
  · exact fun _ e => h.answered hfits _

theorem upholds_teardownCredentials (specs : List CredentialSpec) (h : Holds identity app j) :
    Upholds identity app j (teardownCredentials dryRun identity.displayName app specs) := by
  induction specs generalizing j with
  | nil => exact Heeds.pure h
  | cons spec rest ih =>
    have hlooked : ∀ r, Holds identity app
        (j ++ .answered (.getCredential app.id spec.issuer spec.subject) r) := h.answered trivial
    apply Heeds.afterLookup trivial
    · intro c
      apply (hlooked _).deleting rfl
      exact fun h => Heeds.afterRecord (ih (h.noted rfl))
    · exact fun e _ => ih (hlooked _)
    · exact fun e _ => hlooked _

theorem upholds_teardownPrincipal (h : Holds identity app j) :
    Upholds identity app j (teardownPrincipal dryRun app) := by
  have hlooked := h.answered (c := .getServicePrincipal app.displayName) (.given h.given)
  apply Heeds.afterLookup trivial
  · intro p
    by_cases hid : p.appId = app.appId
    · simp only [if_pos hid]
      apply (hlooked _).deleting rfl
      exact fun h => h.notedPrincipal p.id
    · simp only [if_neg hid]
      exact hlooked _
  · exact fun e _ => hlooked _
  · exact fun e _ => hlooked _

theorem remains_teardown (identity : WorkloadIdentity) (dryRun : Bool) :
    Remains identity false .empty (teardown identity dryRun) := by
  have hstart : ∀ r, Stays identity false
      (.empty ++ .answered (.getApplication identity.displayName) r) := Stays.empty.answered rfl
  apply Heeds.afterLookup trivial
  · intro app
    have happ : Holds identity app
        (.empty ++ .answered (.getApplication identity.displayName) (.ok app)) := ⟨hstart _, rfl⟩
    have hall : Upholds identity app (.empty ++ .answered _ (.ok app)) (do
        teardownCredentials dryRun identity.displayName app identity.credentials
        teardownPrincipal dryRun app
        deleting dryRun (.deleteApplication app.id)
        record (.applicationDeleted identity.displayName app.id)) := by
      apply Heeds.andThen (upholds_teardownCredentials _ happ)
      · rintro ⟨⟩ j h
        apply Heeds.andThen (upholds_teardownPrincipal h)
        · rintro ⟨⟩ j h
          exact h.deleting rfl fun h => h.noted rfl
        · exact fun e j h => h
      · exact fun e j h => h
    exact hall.mono fun _ j h => h.stays
  · exact fun e _ => (hstart _).noted rfl
  · exact fun e _ => hstart _

end Teardown

section Provision

variable {app : Application} {visits : List Visit} {result : Except ReconcileError Unit}

theorem Ensuring.change_displayName (displayName : String) (e : Ensuring)
    (a : Ensured e.aim.call.Answer) : (e.change displayName a).displayName = displayName := by
  cases e <;> cases a <;> rfl

theorem Ensuring.Visits.application? {n : String} {calls : List Reply}
    {result : Except ReconcileError (Ensured (Ensuring.application n).aim.call.Answer)}
    {a : Ensured Application} (h : (Ensuring.application n).Visits calls result)
    (ha : result = .ok a) :
    calls.findSome? (·.application?) = some a.get := by
  cases h with
  | found =>
    cases ha
    rfl
  | foreign hforeign => cases hforeign
  | failed => cases ha
  | made _ hmade =>
    cases hmade <;> cases ha
    rfl

theorem Goes.given (h : Goes (identity.stages app) visits result)
    (happ : ∀ calls (a : Ensured Application),
      visits.head? = some ⟨.application identity.displayName, calls, .ok a⟩ → a.get = app)
    {v : Visit} (hv : v ∈ visits) (hstage : v.stage ≠ .application identity.displayName) :
    (Visit.journal identity.displayName visits).application? = some app := by
  cases h with
  -- Only the first stage was begun.
  | fails => exact absurd (congrArg Visit.stage (List.mem_singleton.mp hv)) hstage
  | @passes _ _ calls a more _ hvisits hrest =>
    obtain rfl : a.get = app := happ calls a rfl
    exact Journal.application?_append (j := ⟨calls, []⟩) (hvisits.application? rfl)
      (.noted _ ++ Visit.journal _ more)

theorem Goes.stays (h : Goes (identity.stages app) visits result)
    (happ : ∀ calls (a : Ensured Application),
      visits.head? = some ⟨.application identity.displayName, calls, .ok a⟩ → a.get = app) :
    Stays identity false (Visit.journal identity.displayName visits) := by
  constructor
  · intro x hx
    obtain ⟨v, hv, hx⟩ := List.mem_flatMap.mp hx
    have hstage : v.stage ∈ identity.stages app := h.order.mem (List.mem_map_of_mem hv)
    have hcall := (h.each v hv).either x hx
    have hgiven := h.given happ hv
    obtain ⟨stage, calls, r⟩ := v
    cases stage with
    | application n =>
      obtain rfl : n = identity.displayName := by simpa [WorkloadIdentity.stages] using hstage
      obtain hcall | hcall := hcall
      · rw [hcall]
        rfl
      · rw [hcall]
        trivial
    | principal app' tags =>
      obtain ⟨rfl, -⟩ : app' = app ∧ tags = identity.tags := by
        simpa [WorkloadIdentity.stages] using hstage
      obtain hcall | hcall := hcall
      · rw [hcall]
        exact PrincipalName.given (hgiven (by simp))
      · rw [hcall]
        trivial
    | credential => obtain hcall | hcall := hcall <;> rw [hcall] <;> trivial
  · intro change hchange
    obtain ⟨⟨stage, calls, r⟩, -, hchange⟩ := List.mem_filterMap.mp hchange
    cases r with
    | error why => cases hchange
    | ok a =>
      cases hchange
      exact .inl (stage.change_displayName _ a)

theorem remains_provision (identity : WorkloadIdentity) :
    Remains identity false .empty (provision identity) := by
  refine (heeds_provision identity).mono fun r j h => ?_
  obtain ⟨app, visits, hgoes, happ, rfl⟩ := h
  exact hgoes.stays happ

end Provision

/-- By what names a run goes. What depends on the application is the lookup of the service
principal, unless it is for a plan, and the report that one was deleted. -/
structure Named (o : Order) (identity : WorkloadIdentity) (j : Journal) : Prop where
  applications : ∀ n r, ⟨.getApplication n, r⟩ ∈ j.replies → n = identity.displayName
  planned : o.action = .provision → o.dryRun = true →
    ∀ n r, ⟨.getServicePrincipal n, r⟩ ∈ j.replies → n = identity.displayName
  provisioned : o.action = .provision → o.dryRun = false →
    ∀ n r, ⟨.getServicePrincipal n, r⟩ ∈ j.replies →
      ∃ app, j.application? = some app ∧ n = app.displayName
  loyal : (∀ app, j.application? = some app → app.displayName = identity.displayName) →
    Loyal identity j
  changes : ∀ change ∈ j.changes, change.kind ≠ .principalDeleted →
    change.displayName = identity.displayName

theorem PrincipalName.eq {n : String} (h : PrincipalName identity j planned n)
    (happ : ∀ app, j.application? = some app → app.displayName = identity.displayName) :
    n = identity.displayName := by
  cases h with
  | declared => rfl
  | given hgiven => exact happ _ hgiven

theorem Stays.loyal (h : Stays identity planned j)
    (happ : ∀ app, j.application? = some app → app.displayName = identity.displayName) :
    Loyal identity j := by
  constructor
  · rintro ⟨c, r⟩ hx n hn
    have hfits := h.calls _ hx
    cases c with
    | getApplication =>
      cases hn
      exact hfits
    | getServicePrincipal =>
      cases hn
      exact PrincipalName.eq hfits happ
    | _ => cases hn
  · intro change hchange
    obtain hname | ⟨-, hname⟩ := h.changes change hchange
    · exact hname
    · exact hname.eq happ

def Order.plans (o : Order) : Bool := o.action = .provision && o.dryRun

theorem remains_attempt (o : Order) (identity : WorkloadIdentity) :
    Remains identity o.plans .empty (o.attempt identity) := by
  obtain ⟨_, action, dryRun, _⟩ := o
  cases action with
  | provision =>
    cases dryRun with
    | false => exact remains_provision identity
    | true => exact remains_planProvision identity
  | teardown => exact remains_teardown identity dryRun

theorem Stays.named {o : Order} (h : Stays identity o.plans j) : Named o identity j where
  applications n r hx := h.calls _ hx
  planned haction hdry n r hx := by
    have hname : PrincipalName identity j o.plans n := h.calls _ hx
    rw [Order.plans, haction, hdry] at hname
    cases hname
    rfl
  provisioned haction hdry n r hx := by
    have hname : PrincipalName identity j o.plans n := h.calls _ hx
    rw [Order.plans, haction, hdry] at hname
    cases hname with
    | given happ => exact ⟨_, happ, rfl⟩
  loyal := h.loyal
  changes change hchange hkind := by
    obtain hname | ⟨hdeleted, -⟩ := h.changes change hchange
    · exact hname
    · exact absurd hdeleted hkind

/-- Whatever a directory answers, a run goes by these names. -/
theorem runs_named {σ : Type} (o : Order) (d : Behaviour σ) (s : σ)
    (identity : WorkloadIdentity) : Named o identity ((o.attempt identity).run.journal d s) :=
  (Routine.Heeds.run d s (remains_attempt o identity)).named

def Cue.finds (fields : List (String × String)) : Cue :=
  ⟨false, .ok ⟨200, .object [("value",
    .array [.object (fields.map fun (key, value) => (key, .string value))])]⟩⟩

def ScriptedTransport.respelt : ScriptedTransport :=
  ⟨[.finds [("id", "app-1"), ("appId", "client-1"), ("displayName", "Payments")],
    .finds [("id", "sp-1"), ("appId", "client-1"), ("displayName", "Payments")],
    ⟨false, .ok ⟨204, .null⟩⟩, ⟨false, .ok ⟨204, .null⟩⟩], false, []⟩

def ScriptedTransport.unnamed : ScriptedTransport :=
  ⟨[.finds [("id", "app-1"), ("appId", "client-1")],
    .finds [("id", "sp-1"), ("appId", "client-1"), ("displayName", "payments")]], false, []⟩

/-- What a teardown and a provisioning look up does not always go by the name of the identity. -/
theorem runs_stray :
    ¬ Loyal ⟨"payments", [], []⟩
        ((teardown ⟨"payments", [], []⟩ false).run.journal ScriptedTransport.behaviour .respelt) ∧
      ¬ Loyal ⟨"payments", ["tether"], []⟩
        ((provision ⟨"payments", ["tether"], []⟩).run.journal ScriptedTransport.behaviour
          .unnamed) := by
  decide +kernel

end Federation
