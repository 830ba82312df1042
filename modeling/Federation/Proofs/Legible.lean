import Federation.Proofs.Breach
import Federation.Proofs.Lines
import Federation.Proofs.Replay

namespace Federation

open Text

def Application.Legible (app : Application) : Prop :=
  IsLine app.id.text ∧ IsLine app.appId ∧ IsLine app.displayName

def ServicePrincipal.Legible (p : ServicePrincipal) : Prop := IsLine p.id.text ∧ IsLine p.appId

def Credential.Legible (c : Credential) : Prop := IsLine c.id.text ∧ IsLine c.name

def CredentialSpec.Legible (spec : CredentialSpec) : Prop :=
  IsLine spec.name ∧ IsLine spec.issuer ∧ IsLine spec.subject

structure WorkloadIdentity.Legible (i : WorkloadIdentity) : Prop where
  displayName : IsLine i.displayName
  credentials : ∀ c ∈ i.credentials, c.Legible

namespace Call

def Legible : Call → Prop
  | .createServicePrincipal appId _ => IsLine appId
  | .getServicePrincipal displayName | .createApplication displayName
  | .getApplication displayName => IsLine displayName
  | .deleteServicePrincipal id | .deleteApplication id => IsLine id.text
  | .addCredential application spec => IsLine application.text ∧ IsLine spec.name
  | .getCredential application issuer subject =>
    IsLine application.text ∧ IsLine issuer ∧ IsLine subject
  | .deleteCredential application id => IsLine application.text ∧ IsLine id.text

def LegibleAnswer : (c : Call) → c.Answer → Prop
  | .createServicePrincipal .., p | .getServicePrincipal _, p => p.Legible
  | .createApplication _, app | .getApplication _, app => app.Legible
  | .getCredential .., credential => credential.Legible
  | .deleteServicePrincipal _, _ | .deleteApplication _, _ | .addCredential .., _
  | .deleteCredential .., _ => True

end Call

/-- A legible call has a legible answer or fails with an error of one line. -/
def Reply.Legible : Reply → Prop
  | ⟨c, .ok a⟩ => c.Legible → c.LegibleAnswer a
  | ⟨c, .error e⟩ => c.Legible → IsLine e.message

/-- Whatever is answered as is assumed, what is put on record and the result are as the conditions
say. -/
def Routine.Yields (A : Reply → Prop) (P : Change → Prop) {α : Type} (post : α → Prop) :
    Routine α → Prop
  | .done a => post a
  | .call c next => ∀ r, A ⟨c, r⟩ → (next r).Yields A P post
  | .acquire _ next | .release _ next => next.Yields A P post
  | .record change next => P change ∧ next.Yields A P post

namespace Routine.Yields

variable {A : Reply → Prop} {P : Change → Prop} {α β : Type} {mid : α → Prop} {post : β → Prop}
  {m : Routine α}

theorem bind {f : α → Routine β} (hm : m.Yields A P mid)
    (hf : ∀ a, mid a → (f a).Yields A P post) : (m.bind f).Yields A P post := by
  induction m with
  | done a => exact hf a hm
  | call c next ih => exact fun r hr => ih r (hm r hr)
  | acquire _ next ih | release _ next ih => exact ih hm
  | record _ next ih => exact ⟨hm.1, ih hm.2⟩

theorem replay (hm : m.Yields A P mid) {replies : List Reply} (hreplies : ∀ r ∈ replies, A r)
    {a : α} {changes : List Change} (h : m.replay replies = some (a, changes)) :
    mid a ∧ ∀ c ∈ changes, P c := by
  induction m generalizing replies changes with
  | done b =>
    cases replies with
    | nil =>
      cases h
      exact ⟨hm, List.forall_mem_nil _⟩
    | cons r rest => cases h
  | call c next ih =>
    cases replies with
    | nil => cases h
    | cons r rest =>
      obtain ⟨c', r⟩ := r
      obtain ⟨hr, hrest⟩ := List.forall_mem_cons.mp hreplies
      rw [Routine.replay] at h
      split at h
      · rename_i hc
        subst hc
        exact ih r (hm r hr) hrest h
      · cases h
  | acquire _ next ih | release _ next ih => exact ih hm hreplies h
  | record change next ih =>
    obtain ⟨⟨b, later⟩, hnext, hb⟩ := Option.map_eq_some_iff.mp h
    cases hb
    obtain ⟨hpost, hlater⟩ := ih hm.2 hreplies hnext
    exact ⟨hpost, List.forall_mem_cons.mpr ⟨hm.1, hlater⟩⟩

end Routine.Yields

namespace Attempt

variable {α β : Type} {Q : α → Prop} {R : β → Prop}

def LegibleEnd (Q : α → Prop) : Except ReconcileError α → Prop
  | .ok a => Q a
  | .error e => IsLine e.message

/-- With legible answers the attempt ends legibly, and what it puts on record is legible. -/
abbrev Legible (Q : α → Prop) (m : Attempt α) : Prop :=
  m.run.Yields Reply.Legible (fun c => AreLines c.texts) (LegibleEnd Q)

theorem Legible.pure {a : α} (h : Q a) : Legible Q (pure a) := h

theorem Legible.throw {e : ReconcileError} (h : IsLine e.message) : Legible Q (throw e) := h

theorem Legible.andThen {m : Attempt β} {f : β → Attempt α} (hm : Legible R m)
    (hf : ∀ b, R b → Legible Q (f b)) : Legible Q (m >>= f) := by
  refine Routine.Yields.bind hm fun r hr => ?_
  cases r with
  | ok b => exact hf b hr
  | error e => exact hr

theorem Legible.record {change : Change} (h : AreLines change.texts) :
    Legible (fun _ => True) (record change) := ⟨h, trivial⟩

theorem isLine_directory {e : DirectoryError} (h : IsLine e.message) :
    IsLine (ReconcileError.directory e).message :=
  isLine_append.mpr ⟨by decide, h⟩

theorem Legible.perform {c : Call} (hc : c.Legible) : Legible c.LegibleAnswer (perform c) := by
  intro r hr
  cases r with
  | ok a => exact hr hc
  | error e => exact isLine_directory (hr hc)

theorem Legible.lookup {c : Call} (hc : c.Legible) :
    Legible (fun found => ∀ a ∈ found, c.LegibleAnswer a) (lookup c) := by
  intro r hr
  cases r with
  | ok a =>
    rintro _ ⟨⟩
    exact hr hc
  | error e =>
    change LegibleEnd _ (if e.isNotFound then .ok none else .error (.directory e))
    cases e.isNotFound with
    | true => exact nofun
    | false => exact isLine_directory (hr hc)

theorem Legible.holding {key : String} {body : Attempt α} (h : Legible Q body) :
    Legible Q (holding key body) :=
  Routine.Yields.bind (m := body.run) h fun _ hr => hr

end Attempt

open Attempt

variable {displayName : String} {app : Application} {spec : CredentialSpec}
  {specs : List CredentialSpec} {i : WorkloadIdentity}

theorem isLine_appIdMismatch {a b c : String} (ha : IsLine a) (hb : IsLine b) (hc : IsLine c) :
    IsLine (ReconcileError.appIdMismatch a b c).message := by
  have hopen : IsLine "service principal '" := by decide
  have hfound : IsLine "' belongs to appId " := by decide
  have hexpected : IsLine ", expected " := by decide
  change IsLine (_ ++ a ++ _ ++ c ++ _ ++ b)
  simp only [isLine_append, ha, hb, hc, hopen, hfound, hexpected, and_self]

theorem ensureApplication_legible (hname : IsLine displayName) :
    Attempt.Legible (fun e => e.get.Legible) (ensureApplication displayName) := by
  refine Legible.holding (Legible.andThen (Legible.lookup hname) fun found hfound => ?_)
  cases found with
  | some app => exact Legible.pure (hfound app rfl)
  | none => exact Legible.andThen (Legible.perform hname) fun _ happ => Legible.pure happ

theorem ensureServicePrincipal_legible (happ : app.Legible) (tags : List String) :
    Attempt.Legible (fun e => e.get.Legible) (ensureServicePrincipal app tags) := by
  obtain ⟨-, hid, hname⟩ := happ
  refine Legible.holding (Legible.andThen (Legible.lookup hname) fun found hfound => ?_)
  cases found with
  | some p =>
    have hp := hfound p rfl
    dsimp only
    split
    · exact Legible.pure hp
    · exact Legible.throw (isLine_appIdMismatch hname hid hp.2)
  | none => exact Legible.andThen (Legible.perform hid) fun _ hp => Legible.pure hp

theorem ensureCredential_legible (hid : IsLine app.id.text) (hspec : spec.Legible) :
    Attempt.Legible (fun e => e.get.Legible) (ensureCredential app spec) := by
  have hget : (Call.getCredential app.id spec.issuer spec.subject).Legible := ⟨hid, hspec.2⟩
  have hadd : (Call.addCredential app.id spec).Legible := ⟨hid, hspec.1⟩
  refine Legible.holding (Legible.andThen (Legible.lookup hget) fun found hfound => ?_)
  cases found with
  | some c => exact Legible.pure (hfound c rfl)
  | none =>
    exact Legible.andThen (Legible.perform hadd) fun _ _ =>
      Legible.andThen (Legible.perform hget) fun _ hc => Legible.pure hc

theorem areLines_pair {t u : String} (ht : IsLine t) (hu : IsLine u) : AreLines [t, u] := by
  simp [ht, hu]

theorem areLines_applicationChange (hname : IsLine displayName) {e : Ensured Application}
    (he : e.get.Legible) : AreLines (applicationChange displayName e).texts := by
  cases e with
  | existing | created => exact areLines_pair hname he.1

theorem areLines_principalChange (hname : IsLine displayName) {e : Ensured ServicePrincipal}
    (he : e.get.Legible) : AreLines (principalChange displayName e).texts := by
  cases e with
  | existing | created => exact areLines_pair hname he.1

theorem areLines_addedChange (hname : IsLine displayName) (hspec : spec.Legible)
    {id : Option ObjectId} (hid : ∀ i ∈ id, IsLine i.text) :
    AreLines (addedChange displayName spec id).texts := by
  obtain ⟨hcredential, -, hsubject⟩ := hspec
  cases id with
  | none => simp [addedChange, Change.texts, hname, hcredential, hsubject]
  | some i => simpa [addedChange, Change.texts, hname, hcredential, hsubject] using hid

theorem areLines_credentialTexts (hname : IsLine displayName) {c : Credential} (hc : c.Legible) :
    AreLines [displayName, c.name, c.id.text] := by
  simp [hname, hc.1, hc.2]

theorem areLines_credentialChange (hname : IsLine displayName) (hspec : spec.Legible)
    {e : Ensured Credential} (he : e.get.Legible) :
    AreLines (credentialChange displayName spec e).texts := by
  cases e with
  | existing c => exact areLines_credentialTexts hname he
  | created c =>
    refine areLines_addedChange hname hspec ?_
    rintro _ ⟨⟩
    exact he.1

theorem provisionCredentials_legible (hname : IsLine displayName) (hid : IsLine app.id.text)
    (hspecs : ∀ spec ∈ specs, spec.Legible) :
    Attempt.Legible (fun _ => True) (provisionCredentials displayName app specs) := by
  induction specs with
  | nil => trivial
  | cons spec rest ih =>
    obtain ⟨hspec, hrest⟩ := List.forall_mem_cons.mp hspecs
    refine Legible.andThen (ensureCredential_legible hid hspec) fun e he => ?_
    exact Legible.andThen (Legible.record (areLines_credentialChange hname hspec he)) fun _ _ =>
      ih hrest

theorem provision_legible (hi : i.Legible) : Attempt.Legible (fun _ => True) (provision i) := by
  have hname := hi.displayName
  refine Legible.andThen (ensureApplication_legible hname) fun app happ => ?_
  refine Legible.andThen (Legible.record (areLines_applicationChange hname happ)) fun _ _ => ?_
  refine Legible.andThen (ensureServicePrincipal_legible happ i.tags) fun p hp => ?_
  refine Legible.andThen (Legible.record (areLines_principalChange hname hp)) fun _ _ => ?_
  exact provisionCredentials_legible hname happ.1 hi.credentials

theorem planAll_legible (hi : i.Legible) : Attempt.Legible (fun _ => True) (planAll i) := by
  have hname : AreLines [i.displayName] := by simpa using hi.displayName
  refine Legible.andThen (Legible.record hname) fun _ _ =>
    Legible.andThen (Legible.record hname) fun _ _ => ?_
  have hspecs := hi.credentials
  revert hspecs
  induction i.credentials with
  | nil => exact fun _ => trivial
  | cons spec rest ih =>
    intro hspecs
    obtain ⟨hspec, hrest⟩ := List.forall_mem_cons.mp hspecs
    exact Legible.andThen (Legible.record (areLines_addedChange hi.displayName hspec nofun))
      fun _ _ => ih hrest

theorem planCredentials_legible (hname : IsLine displayName) (hid : IsLine app.id.text)
    (hspecs : ∀ spec ∈ specs, spec.Legible) :
    Attempt.Legible (fun _ => True) (planCredentials displayName app specs) := by
  induction specs with
  | nil => trivial
  | cons spec rest ih =>
    obtain ⟨hspec, hrest⟩ := List.forall_mem_cons.mp hspecs
    refine Legible.andThen (Legible.lookup ⟨hid, hspec.2⟩) fun found hfound => ?_
    cases found with
    | some c =>
      have hchange := areLines_credentialTexts hname (hfound c rfl)
      exact Legible.andThen (Legible.record hchange) fun _ _ => ih hrest
    | none =>
      have hchange : AreLines (addedChange displayName spec none).texts :=
        areLines_addedChange hname hspec nofun
      exact Legible.andThen (Legible.record hchange) fun _ _ => ih hrest

theorem planProvision_legible (hi : i.Legible) :
    Attempt.Legible (fun _ => True) (planProvision i) := by
  have hname := hi.displayName
  refine Legible.andThen (Legible.lookup hname) fun found hfound => ?_
  cases found with
  | none => exact planAll_legible hi
  | some app =>
    obtain ⟨hid, happId, -⟩ := hfound app rfl
    have hcredentials := planCredentials_legible hname hid hi.credentials
    refine Legible.andThen (Legible.record (areLines_pair hname hid)) fun _ _ =>
      Legible.andThen (Legible.lookup hname) fun found hfound => ?_
    cases found with
    | none =>
      have hchange : AreLines [i.displayName] := by simpa using hname
      exact Legible.andThen (Legible.record hchange) fun _ _ => hcredentials
    | some p =>
      obtain ⟨hp, hpApp⟩ := hfound p rfl
      dsimp only
      split
      · exact Legible.andThen (Legible.record (areLines_pair hname hp)) fun _ _ => hcredentials
      · exact Legible.throw (isLine_appIdMismatch hname happId hpApp)

theorem deleting_legible (dryRun : Bool) {c : Call} (hc : c.Legible) :
    Attempt.Legible (fun _ => True) (deleting dryRun c) := by
  cases dryRun with
  | true => trivial
  | false => exact Legible.andThen (Legible.perform hc) fun _ _ => trivial

theorem teardownCredentials_legible (dryRun : Bool) (hname : IsLine displayName)
    (hid : IsLine app.id.text) (hspecs : ∀ spec ∈ specs, spec.Legible) :
    Attempt.Legible (fun _ => True) (teardownCredentials dryRun displayName app specs) := by
  induction specs with
  | nil => trivial
  | cons spec rest ih =>
    obtain ⟨hspec, hrest⟩ := List.forall_mem_cons.mp hspecs
    refine Legible.andThen (Legible.lookup ⟨hid, hspec.2⟩) fun found hfound => ?_
    cases found with
    | none => exact ih hrest
    | some c =>
      have hc : c.Legible := hfound c rfl
      have hdelete : (Call.deleteCredential app.id c.id).Legible := ⟨hid, hc.1⟩
      refine Legible.andThen (deleting_legible dryRun hdelete) fun _ _ => ?_
      exact Legible.andThen (Legible.record (areLines_credentialTexts hname hc)) fun _ _ => ih hrest

theorem teardownPrincipal_legible (dryRun : Bool) (hname : IsLine app.displayName) :
    Attempt.Legible (fun _ => True) (teardownPrincipal dryRun app) := by
  refine Legible.andThen (Legible.lookup hname) fun found hfound => ?_
  cases found with
  | none => trivial
  | some p =>
    obtain ⟨hp, -⟩ := hfound p rfl
    dsimp only
    split
    · exact Legible.andThen (deleting_legible dryRun hp) fun _ _ =>
        Legible.record (areLines_pair hname hp)
    · trivial

theorem teardown_legible (hi : i.Legible) (dryRun : Bool) :
    Attempt.Legible (fun _ => True) (teardown i dryRun) := by
  have hname := hi.displayName
  refine Legible.andThen (Legible.lookup hname) fun found hfound => ?_
  cases found with
  | none =>
    have hchange : AreLines [i.displayName] := by simpa using hname
    exact Legible.record hchange
  | some app =>
    obtain ⟨hid, -, happ⟩ := hfound app rfl
    refine Legible.andThen (teardownCredentials_legible dryRun hname hid hi.credentials)
      fun _ _ => ?_
    refine Legible.andThen (teardownPrincipal_legible dryRun happ) fun _ _ => ?_
    exact Legible.andThen (deleting_legible dryRun hid) fun _ _ =>
      Legible.record (areLines_pair hname hid)

theorem Order.attempt_legible (o : Order) (hi : i.Legible) :
    Attempt.Legible (fun _ => True) (o.attempt i) := by
  unfold Order.attempt
  split
  · exact provision_legible hi
  · exact planProvision_legible hi
  · exact teardown_legible hi _

end Federation
