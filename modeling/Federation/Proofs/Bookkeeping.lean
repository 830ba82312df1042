import Federation.Proofs.Conduct
import Federation.Reconcile.Provision
import Federation.Reconcile.Teardown

namespace Federation

open Attempt Store

namespace Standing

/-- No lock is held, no call can have been refused right after an addition, and unless the run is
dry the record tells what was performed. -/
structure Even (dry : Bool) (st : Standing) : Prop where
  free : st.hold = none
  whole : Sealed st.deeds
  equal : dry = false → recorded st.changes = performed st.deeds

/-- No lock is held, and the record lacks the credential that was added last; where all is calm,
because the next call was refused. -/
structure Short (calm : Bool) (st : Standing) : Prop where
  free : st.hold = none
  broken : calm = true → ¬ Unbroken st.deeds
  short : ∃ id, performed st.deeds = recorded st.changes ++ [(.credentialAdded, id)]

variable {dry calm : Bool} {st st' : Standing}

theorem even_start (dry : Bool) : Even dry ⟨none, [], []⟩ := ⟨rfl, sealed_nil, fun _ => rfl⟩

theorem Even.leads (h : st.Even dry) (hleads : st.Leads [] st') : st'.Even dry :=
  ⟨hleads.free h.free, hleads.whole, fun hd => by
    rw [hleads.changes, hleads.performed, h.equal hd, List.append_nil]⟩

theorem Even.record (h : st.Even dry) {made : List Mutation} (hleads : st.Leads made st')
    {change : Change} (hchange : dry = false → change.mutation?.toList = made) :
    Even dry { st' with changes := st'.changes ++ [change] } :=
  ⟨hleads.free h.free, hleads.whole, fun hd => by
    rw [recorded_append, hleads.changes, hleads.performed, h.equal hd, hchange hd]⟩

theorem Even.note (h : st.Even dry) {change : Change}
    (hchange : dry = false → change.mutation? = none) :
    Even dry { st with changes := st.changes ++ [change] } :=
  ⟨h.free, h.whole, fun hd => by rw [recorded_append, h.equal hd, hchange hd]; simp⟩

theorem Even.breaks (h : st.Even false) (hbreaks : st.Breaks calm st') : st'.Short calm := by
  refine ⟨by simpa [h.free] using hbreaks.lock, hbreaks.broken, ?_⟩
  rw [hbreaks.changes, h.equal rfl]
  exact hbreaks.performed

end Standing

variable {names : Naming} {calm : Bool} {st : Standing}

/-- The accounts are even, or an attempt that failed left them short. -/
def Settled (calm : Bool) : Except ReconcileError Unit → Standing → Prop
  | .ok (), st => st.Even false
  | .error _, st => st.Even false ∨ st.Short calm

theorem applicationChange_mutation (displayName : String) (app : Ensured Application) :
    (applicationChange displayName app).mutation?.toList =
      app.made .applicationCreated (·.id) := by
  cases app <;> rfl

theorem principalChange_mutation (displayName : String) (principal : Ensured ServicePrincipal) :
    (principalChange displayName principal).mutation?.toList =
      principal.made .principalCreated (·.id) := by
  cases principal <;> rfl

theorem credentialChange_mutation (displayName : String) (spec : CredentialSpec)
    (c : Ensured Credential) :
    (credentialChange displayName spec c).mutation?.toList = c.made .credentialAdded (·.id) := by
  cases c <;> rfl

theorem provisionCredentials_abides (displayName : String) (app : Application)
    (specs : List CredentialSpec) (h : st.Even false) :
    Abides names calm (Settled calm) st (provisionCredentials displayName app specs).run := by
  induction specs generalizing st with
  | nil => exact Abides.pure h
  | cons spec rest ih =>
    unfold provisionCredentials
    refine Abides.andThen (ensureCredential_abides h.free h.whole app spec) (fun c st' hc => ?_)
      (fun e st' he => he.imp h.leads h.breaks)
    refine Abides.bind (Abides.record ?_)
    exact ih (h.record hc.2 fun _ => credentialChange_mutation displayName spec c)

theorem provision_abides (hn : names.Distinct) (identity : WorkloadIdentity) (h : st.Even false) :
    Abides names calm (Settled calm) st (provision identity).run := by
  unfold provision
  refine Abides.andThen (ensureApplication_abides h.free h.whole identity.displayName)
    (fun app st₁ ⟨hmakes, happ⟩ => ?_) (fun e st₁ he => he.imp h.leads h.breaks)
  have h₁ := h.record happ fun _ => applicationChange_mutation identity.displayName app
  refine Abides.bind (Abides.record ?_)
  refine Abides.andThen (ensureServicePrincipal_abides hn h₁.free h₁.whole hmakes identity.tags)
    (fun principal st₂ hp => ?_) (fun e st₂ he => he.imp h₁.leads h₁.breaks)
  have h₂ := h₁.record hp.2 fun _ => principalChange_mutation identity.displayName principal
  refine Abides.bind (Abides.record ?_)
  exact provisionCredentials_abides identity.displayName app.get identity.credentials h₂

theorem lookup_even {dry : Bool} {c : Call} (hc : c.kind.isLookup = true) (h : st.Even dry) :
    Abides names calm (fun _ st' => st'.Even dry) st (lookup c).run := by
  refine Abides.lookup hc (fun s => ?_) (fun s _ hf => ⟨st.hold, rfl, hf, ?_⟩)
  · exact h.leads (h.whole.leads_quiet (Deed.quiet_error _ _ _) rfl)
  · exact h.leads (h.whole.leads_quiet (Deed.quiet_lookup hc _ _) rfl)

theorem record_even {dry : Bool} {change : Change} (h : st.Even dry)
    (hchange : dry = false → change.mutation? = none) :
    Abides names calm (fun _ st' => st'.Even dry) st (record change).run :=
  Abides.record (h.note hchange)

theorem planCredentials_abides (displayName : String) (app : Application)
    (specs : List CredentialSpec) (h : st.Even true) :
    Abides names calm (fun _ st' => st'.Even true) st
      (planCredentials displayName app specs).run := by
  induction specs generalizing st with
  | nil => exact Abides.pure h
  | cons spec rest ih =>
    unfold planCredentials
    refine Abides.andThen (lookup_even rfl h) (fun c st₁ h₁ => ?_) (fun _ _ h₁ => h₁)
    cases c with
    | some c => exact Abides.bind (Abides.record (ih (h₁.note (by simp))))
    | none => exact Abides.bind (Abides.record (ih (h₁.note (by simp))))

theorem forM_record_abides (planned : CredentialSpec → Change) (specs : List CredentialSpec)
    (h : st.Even true) :
    Abides names calm (fun _ st' => st'.Even true) st
      (specs.forM fun spec => record (planned spec) : Attempt Unit).run := by
  induction specs generalizing st with
  | nil => exact Abides.pure h
  | cons spec rest ih =>
    rw [List.forM]
    exact Abides.bind (Abides.record (ih (h.note (by simp))))

theorem planProvision_abides (identity : WorkloadIdentity) (h : st.Even true) :
    Abides names calm (fun _ st' => st'.Even true) st (planProvision identity).run := by
  unfold planProvision
  refine Abides.andThen (lookup_even rfl h) (fun app st₁ h₁ => ?_) (fun _ _ h₁ => h₁)
  cases app with
  | none =>
    have h₂ : Standing.Even true { st₁ with changes := st₁.changes ++
        [.applicationCreated identity.displayName none] ++
          [.principalCreated identity.displayName none] } := (h₁.note (by simp)).note (by simp)
    exact Abides.bind (Abides.record (Abides.bind (Abides.record
      (forM_record_abides _ identity.credentials h₂))))
  | some app =>
    have h₂ : Standing.Even true { st₁ with changes := st₁.changes ++
        [.applicationUnchanged identity.displayName app.id] } := h₁.note (by simp)
    refine Abides.bind (Abides.record ?_)
    refine Abides.andThen (lookup_even rfl h₂) (fun principal st₃ h₃ => ?_) (fun _ _ h₃ => h₃)
    cases principal with
    | none =>
      exact Abides.bind (Abides.record
        (planCredentials_abides _ app identity.credentials (h₃.note (by simp))))
    | some principal =>
      by_cases ha : principal.appId = app.appId
      · simp only [ha, ↓reduceIte]
        exact Abides.bind (Abides.record
          (planCredentials_abides _ app identity.credentials (h₃.note (by simp))))
      · simp only [ha, ↓reduceIte]
        exact h₃

theorem deleting_abides {dry : Bool} {c : Call} (hd : c.isDelete = true) {mutation : Mutation}
    (hmutation : ∀ a s, Deed.mutation? ⟨c, .ok a, s⟩ = some mutation) (h : st.Even dry) :
    Abides names false (fun r st' => match r with
      | .ok () => ∃ made, st.Leads made st' ∧ (dry = false → made = [mutation])
      | .error _ => st'.Even dry) st (deleting dry c).run := by
  unfold deleting
  cases dry with
  | true =>
    refine Abides.pure ⟨[], ⟨rfl, rfl, h.whole, by simp⟩, fun hf => by cases hf⟩
  | false =>
    have haddition : ∀ r s, Deed.isAddition ⟨c, r, s⟩ = false := by
      cases c with
      | deleteServicePrincipal _ | deleteApplication _ | deleteCredential _ _ =>
        exact fun _ _ => rfl
      | _ => cases hd
    refine Abides.andThen (perform_abides (fun hc => by cases hc) h.whole (fun _ => mutation)
      haddition hmutation ?_ (fun _ => True) fun _ _ _ _ => trivial) ?_ ?_
    · intro s _ aim id hc
      rw [creation_delete hd] at hc
      cases hc
    · exact fun _ st' hleads => Abides.pure ⟨_, hleads.2, fun _ => rfl⟩
    · exact fun _ st' hleads => h.leads hleads

theorem teardownCredentials_abides {dry : Bool} (displayName : String) (app : Application)
    (specs : List CredentialSpec) (h : st.Even dry) :
    Abides names false (fun _ st' => st'.Even dry) st
      (teardownCredentials dry displayName app specs).run := by
  induction specs generalizing st with
  | nil => exact Abides.pure h
  | cons spec rest ih =>
    unfold teardownCredentials
    refine Abides.andThen (lookup_even rfl h) (fun c st₁ h₁ => ?_) (fun _ _ h₁ => h₁)
    cases c with
    | none => exact ih h₁
    | some c =>
      refine Abides.andThen (deleting_abides rfl (fun _ _ => rfl) h₁)
        (fun _ st₂ ⟨made, hleads, hmade⟩ => ?_) (fun _ _ h₂ => h₂)
      refine Abides.bind (Abides.record (ih (h₁.record hleads fun hd => ?_)))
      rw [hmade hd]
      rfl

theorem teardownPrincipal_abides {dry : Bool} (app : Application) (h : st.Even dry) :
    Abides names false (fun _ st' => st'.Even dry) st (teardownPrincipal dry app).run := by
  unfold teardownPrincipal
  refine Abides.andThen (lookup_even rfl h) (fun principal st₁ h₁ => ?_) (fun _ _ h₁ => h₁)
  cases principal with
  | none => exact Abides.pure h₁
  | some principal =>
    by_cases ha : principal.appId = app.appId
    · simp only [ha, ↓reduceIte]
      refine Abides.andThen (deleting_abides rfl (fun _ _ => rfl) h₁)
        (fun _ st₂ ⟨made, hleads, hmade⟩ => ?_) (fun _ _ h₂ => h₂)
      refine Abides.record (h₁.record hleads fun hd => ?_)
      rw [hmade hd]
      rfl
    · simp only [ha, ↓reduceIte]
      exact Abides.pure h₁

theorem teardown_abides (identity : WorkloadIdentity) (dry : Bool) (h : st.Even dry) :
    Abides names false (fun _ st' => st'.Even dry) st (teardown identity dry).run := by
  unfold teardown
  refine Abides.andThen (lookup_even rfl h) (fun app st₁ h₁ => ?_) (fun _ _ h₁ => h₁)
  cases app with
  | none => exact record_even h₁ fun _ => rfl
  | some app =>
    refine Abides.andThen (teardownCredentials_abides _ app identity.credentials h₁)
      (fun _ st₂ h₂ => ?_) (fun _ _ h₂ => h₂)
    refine Abides.andThen (teardownPrincipal_abides app h₂) (fun _ st₃ h₃ => ?_) (fun _ _ h₃ => h₃)
    refine Abides.andThen (deleting_abides rfl (fun _ _ => rfl) h₃)
      (fun _ st₄ ⟨made, hleads, hmade⟩ => ?_) (fun _ _ h₄ => h₄)
    refine Abides.record (h₃.record hleads fun hd => ?_)
    rw [hmade hd]
    rfl

end Federation
