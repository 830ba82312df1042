import Federation.Proofs.Abide
import Federation.Proofs.Account

namespace Federation

open Attempt Store

namespace Deed

theorem done_eq {names : Naming} {c : Call} {s : Store} {r : c.Outcome}
    (h : (behaviour names c s).1 = r) : done names c s = ⟨c, r, (behaviour names c s).2⟩ := by
  rw [done, h]

structure Quiet (d : Deed) : Prop where
  mutation : d.mutation? = none
  addition : d.isAddition = false

theorem quiet_error (c : Call) (e : DirectoryError) (s : Store) : Quiet ⟨c, .error e, s⟩ := by
  cases c <;> exact ⟨rfl, rfl⟩

theorem quiet_lookup {c : Call} (hc : c.kind.isLookup = true) (r : c.Outcome) (s : Store) :
    Quiet ⟨c, r, s⟩ := by
  cases c with
  | getServicePrincipal _ | getApplication _ | getCredential _ _ _ => exact ⟨rfl, rfl⟩
  | createServicePrincipal _ _ | createApplication _ | addCredential _ _ | deleteServicePrincipal _
  | deleteApplication _ | deleteCredential _ _ => cases hc

end Deed

/-- From one standing to another with the same lock, by calls that performed the given mutations;
nothing was put on record, and no call can have been refused right after an addition. -/
structure Standing.Leads (st : Standing) (made : List Mutation) (st' : Standing) : Prop where
  lock : st'.hold.map (·.1) = st.hold.map (·.1)
  changes : st'.changes = st.changes
  whole : Sealed st'.deeds
  performed : performed st'.deeds = performed st.deeds ++ made

namespace Standing.Leads

variable {st st' st'' : Standing} {made more : List Mutation}

theorem trans (h : st.Leads made st') (h' : st'.Leads more st'') : st.Leads (made ++ more) st'' :=
  ⟨h'.lock.trans h.lock, h'.changes.trans h.changes, h'.whole, by
    rw [h'.performed, h.performed, List.append_assoc]⟩

theorem free (h : st.Leads made st') (hfree : st.hold = none) : st'.hold = none := by
  simpa [hfree] using h.lock

theorem release {aim : Aim} (hfree : st.hold = none) (h : (st.under aim).Leads made st') :
    st.Leads made { st' with hold := none } :=
  ⟨by rw [hfree], h.changes, h.whole, h.performed⟩

end Standing.Leads

/-- From one standing to another with the same lock, in which a credential was added and the next
call failed; where all is calm, it was refused. -/
structure Standing.Breaks (st : Standing) (calm : Bool) (st' : Standing) : Prop where
  lock : st'.hold.map (·.1) = st.hold.map (·.1)
  changes : st'.changes = st.changes
  broken : calm = true → ¬ Unbroken st'.deeds
  performed : ∃ id, performed st'.deeds = performed st.deeds ++ [(.credentialAdded, id)]

def Ensured.made {α : Type} (kind : Change.Kind) (id : α → ObjectId) : Ensured α → List Mutation
  | .created a => [(kind, some (id a))]
  | .existing _ => []

/-- From one standing to another with the same lock, by ensuring an object of the given kind. -/
def Standing.Ensures {α : Type} (st : Standing) (calm : Bool) (Found : α → Prop)
    (kind : Change.Kind) (id : α → ObjectId) :
    Except ReconcileError (Ensured α) → Standing → Prop
  | .ok a, st' => Found a.get ∧ st.Leads (a.made kind id) st'
  | .error _, st' => st.Leads [] st' ∨ st.Breaks calm st'

theorem Sealed.leads_quiet {st : Standing} (h : Sealed st.deeds) {d : Deed} (hd : d.Quiet)
    {hold : Option (Aim × Known)} (hlock : hold.map (·.1) = st.hold.map (·.1)) :
    st.Leads [] { st with hold, deeds := st.deeds ++ [d] } :=
  ⟨hlock, rfl, h.append hd.addition, by simp [hd.mutation]⟩

variable {names : Naming} {calm : Bool} {st : Standing}

def Aim.call : Aim → Call
  | .application displayName => .getApplication displayName
  | .principal displayName => .getServicePrincipal displayName
  | .credential owner issuer subject => .getCredential owner issuer subject

theorem Aim.call_isLookup (aim : Aim) : aim.call.kind.isLookup = true := by
  cases aim <;> rfl

theorem Aim.ids_eq_nil (aim : Aim) {s : Store} {e : DirectoryError}
    (h : (behaviour names aim.call s).1 = .error e) (he : e.isNotFound = true) :
    aim.ids s = [] := by
  cases aim with
  | application displayName =>
    change s.getApplication displayName = _ at h
    unfold getApplication at h
    cases hf : s.applications.find? (·.displayName = displayName) with
    | some app =>
      rw [hf] at h
      cases h
    | none => exact map_filter_of_find?_none _ hf
  | principal displayName =>
    change s.getServicePrincipal displayName = _ at h
    unfold getServicePrincipal at h
    cases hf : s.principals.find? (·.displayName = some displayName) with
    | some principal =>
      rw [hf] at h
      cases h
    | none => exact map_filter_of_find?_none _ hf
  | credential owner issuer subject =>
    change s.getCredential owner issuer subject = _ at h
    rw [getCredential_eq] at h
    cases ha : s.hasApplication owner with
    | false =>
      rw [ha] at h
      cases h
      cases he
    | true =>
      rw [ha] at h
      cases hf : (s.credentialsOf owner).find? (·.answers issuer subject) with
      | some c =>
        rw [hf] at h
        cases h
      | none => exact map_filter_of_find?_none _ hf

theorem lookup_abides (aim : Aim) (hsealed : Sealed st.deeds) (Found : aim.call.Answer → Prop)
    (hfound : ∀ s a, s.Sound names → (behaviour names aim.call s).1 = .ok a → Found a) :
    Abides names calm (fun r st' => (st.under aim).Leads [] st' ∧ match r with
      | .ok (some a) => Found a
      | .ok none => st'.hold = some (aim, .absent)
      | .error _ => True) (st.under aim) (lookup aim.call).run := by
  have hunder : Sealed (st.under aim).deeds := hsealed
  have hleads : ∀ (d : Deed) (known : Known), d.Quiet →
      (st.under aim).Leads [] ⟨some (aim, known), st.deeds ++ [d], st.changes⟩ :=
    fun d known hd => hunder.leads_quiet hd rfl
  refine Abides.lookup aim.call_isLookup (fun s => ?_) (fun s hs _ => ?_)
  · exact ⟨hleads _ _ (Deed.quiet_error _ _ _), trivial⟩
  · have hquiet : (Deed.done names aim.call s).Quiet := Deed.quiet_lookup aim.call_isLookup _ _
    have hnothing : Fits calm (some (aim, .nothing)) s := by
      rintro h ⟨⟩
      trivial
    cases hr : (behaviour names aim.call s).1 with
    | ok a => exact ⟨_, rfl, hnothing, hleads _ _ hquiet, hfound s a hs hr⟩
    | error e =>
      cases he : e.isNotFound with
      | true =>
        have habsent : Fits calm (some (aim, .absent)) s := by
          rintro h ⟨⟩
          exact aim.ids_eq_nil hr he
        refine ⟨some (aim, .absent), rfl, habsent, ?_⟩
        simp only [found, he, ↓reduceIte, and_true]
        exact hleads _ _ hquiet
      | false =>
        refine ⟨some (aim, .nothing), rfl, hnothing, ?_⟩
        simp only [found, he, Bool.false_eq_true, ↓reduceIte, and_true]
        exact hleads _ _ hquiet

theorem perform_abides {c : Call} (hcalm : calm = true → c.isDelete = false)
    (hsealed : Sealed st.deeds) (mutation : c.Answer → Mutation)
    (haddition : ∀ r s, Deed.isAddition ⟨c, r, s⟩ = false)
    (hmutation : ∀ a s, Deed.mutation? ⟨c, .ok a, s⟩ = some (mutation a))
    (hcreate : ∀ s : Store, s.Sound names → ∀ aim id, s.creation names c = some (aim, id) →
      st.hold = some (aim, .absent))
    (Found : c.Answer → Prop)
    (hfound : ∀ s a, s.Sound names → (behaviour names c s).1 = .ok a → Found a) :
    Abides names calm (fun r st' => match r with
      | .ok a => Found a ∧ st.Leads [mutation a] st'
      | .error _ => st.Leads [] st') st (perform c).run := by
  refine Abides.perform hcalm (fun s => ?_) (fun s hs _ => ⟨hcreate s hs, ?_⟩)
  · exact hsealed.leads_quiet (Deed.quiet_error _ _ _) rfl
  · have hlock : (st.hold.map fun h => (h.1, Known.nothing)).map (·.1) = st.hold.map (·.1) := by
      cases st.hold <;> rfl
    have hfits : Fits calm (st.hold.map fun h => (h.1, Known.nothing)) (behaviour names c s).2 := by
      intro h hm
      obtain ⟨a, -, rfl⟩ := Option.map_eq_some_iff.mp hm
      trivial
    refine ⟨_, hlock, hfits, ?_⟩
    cases hr : (behaviour names c s).1 with
    | ok a =>
      refine ⟨hfound s a hs hr, hlock, rfl, hsealed.append (haddition _ _), ?_⟩
      simp [Deed.done_eq hr, hmutation]
    | error e =>
      rw [Deed.done_eq hr]
      exact hsealed.leads_quiet (Deed.quiet_error _ _ _) hlock

theorem makes_of_lookup {displayName : String} {s : Store} {app : Application}
    (hs : s.Sound names) (h : (behaviour names (.getApplication displayName) s).1 = .ok app) :
    names.Makes app := by
  change s.getApplication displayName = _ at h
  unfold getApplication at h
  cases hf : s.applications.find? (·.displayName = displayName) with
  | none =>
    rw [hf] at h
    cases h
  | some found =>
    rw [hf] at h
    cases h
    obtain ⟨n, -, he⟩ := hs.made _ (List.mem_of_find?_eq_some hf)
    exact ⟨n, he⟩

/-- What was ensured under a lock stays so when the lock is given back. -/
theorem Abides.ensuring {α : Type} (aim : Aim) {body : Attempt (Ensured α)} {Found : α → Prop}
    {kind : Change.Kind} {id : α → ObjectId} (hfree : st.hold = none)
    (h : Abides names calm ((st.under aim).Ensures calm Found kind id) (st.under aim) body.run) :
    Abides names calm (st.Ensures calm Found kind id) st (Attempt.holding aim.key body).run := by
  refine Abides.holding hfree h fun r st' hr => ?_
  cases r with
  | ok a => exact ⟨hr.2.lock, hr.1, hr.2.release hfree⟩
  | error e =>
    obtain hleads | hbreaks := hr
    · exact ⟨hleads.lock, .inl (hleads.release hfree)⟩
    · exact ⟨hbreaks.lock, .inr ⟨by rw [hfree], hbreaks.changes, hbreaks.broken,
        hbreaks.performed⟩⟩

theorem ensureApplication_abides (hfree : st.hold = none) (hsealed : Sealed st.deeds)
    (displayName : String) :
    Abides names calm (st.Ensures calm names.Makes .applicationCreated (·.id)) st
      (ensureApplication displayName).run := by
  refine Abides.ensuring (.application displayName) hfree ?_
  refine Abides.andThen (lookup_abides (.application displayName) hsealed names.Makes
    fun s app hs h => makes_of_lookup hs h) ?_ ?_
  · rintro (_ | app) st' ⟨hleads, h⟩
    · refine Abides.andThen (perform_abides (c := .createApplication displayName) (fun _ => rfl)
        hleads.whole (fun app => (.applicationCreated, some app.id)) (fun _ _ => rfl)
        (fun _ _ => rfl) ?_ names.Makes ?_) ?_ ?_
      · intro s _ aim id hc
        cases hc
        exact h
      · intro s app _ hr
        cases hr
        exact ⟨_, rfl⟩
      · rintro app st'' ⟨hmakes, hmore⟩
        exact Abides.pure ⟨hmakes, hleads.trans hmore⟩
      · exact fun e st'' hmore => .inl (hleads.trans hmore)
    · exact Abides.pure ⟨h, hleads⟩
  · exact fun e st' h => .inl h.1

theorem creation_principal (hn : names.Distinct) {app : Application} (happ : names.Makes app)
    {tags : List String} {s : Store} (hs : s.Sound names) {aim : Aim} {id : ObjectId}
    (h : s.creation names (.createServicePrincipal app.appId tags) = some (aim, id)) :
    aim = .principal app.displayName := by
  obtain ⟨found, hf, he⟩ := Option.map_eq_some_iff.mp h
  obtain ⟨n, hn'⟩ := happ
  obtain ⟨m, -, hm⟩ := hs.made _ (List.mem_of_find?_eq_some hf)
  have hid : found.appId = app.appId := by simpa using List.find?_some hf
  rw [hm, hn'] at hid
  rw [← (Prod.mk.inj he).1, (hn.appId _ _ _ _ hid).1]

theorem ensureServicePrincipal_abides (hn : names.Distinct) (hfree : st.hold = none)
    (hsealed : Sealed st.deeds) {app : Application} (happ : names.Makes app) (tags : List String) :
    Abides names calm (st.Ensures calm (fun _ => True) .principalCreated (·.id)) st
      (ensureServicePrincipal app tags).run := by
  refine Abides.ensuring (.principal app.displayName) hfree ?_
  refine Abides.andThen (lookup_abides (.principal app.displayName) hsealed (fun _ => True)
    fun _ _ _ _ => trivial) ?_ ?_
  · rintro (_ | principal) st' ⟨hleads, h⟩
    · refine Abides.andThen (perform_abides (c := .createServicePrincipal app.appId tags)
        (fun _ => rfl) hleads.whole (fun principal => (.principalCreated, some principal.id))
        (fun _ _ => rfl) (fun _ _ => rfl) ?_ (fun _ => True) fun _ _ _ _ => trivial) ?_ ?_
      · intro s hs aim id hc
        rw [creation_principal hn happ hs hc]
        exact h
      · exact fun principal st'' hmore => Abides.pure ⟨trivial, hleads.trans hmore.2⟩
      · exact fun e st'' hmore => .inl (hleads.trans hmore)
    · by_cases ha : principal.appId = app.appId
      · simp only [ha, ↓reduceIte]
        exact Abides.pure ⟨trivial, hleads⟩
      · simp only [ha, ↓reduceIte]
        exact Abides.throw (.inl hleads)
  · exact fun e st' h => .inl h.1

theorem addCredential_abides {owner : ObjectId} {spec : CredentialSpec}
    (hhold : st.hold = some (.credential owner spec.issuer spec.subject, .absent))
    (hsealed : Sealed st.deeds) :
    Abides names calm (fun r st' => match r with
      | .ok () => ∃ id d, d.isAddition = true ∧ d.mutation? = some (.credentialAdded, some id) ∧
          st' = ⟨some (.credential owner spec.issuer spec.subject, .only id), st.deeds ++ [d],
            st.changes⟩
      | .error _ => st.Leads [] st') st (perform (.addCredential owner spec)).run := by
  refine Abides.perform (fun _ => rfl) (fun s => ?_) (fun s hs hf => ?_)
  · exact hsealed.leads_quiet (Deed.quiet_error _ _ _) rfl
  · have habsent : (Aim.credential owner spec.issuer spec.subject).ids s = [] :=
      hf (_, .absent) hhold
    obtain ⟨e, hadd, hc⟩ | ⟨hadd, hcreds, hc⟩ := addCredential_cases names s owner spec
    · have hr : (behaviour names (.addCredential owner spec) s).1 = .error e :=
        congrArg Prod.fst hadd
      have hs' : (behaviour names (.addCredential owner spec) s).2 = s := congrArg Prod.snd hadd
      rw [hc, Deed.done_eq hr, hr, hs']
      refine ⟨fun _ _ h => (nomatch h), st.hold, rfl, hf, ?_⟩
      exact hsealed.leads_quiet (Deed.quiet_error _ _ _) rfl
    · have hr : (behaviour names (.addCredential owner spec) s).1 = .ok () := hadd
      rw [hc, Deed.done_eq hr, hr]
      refine ⟨fun aim id h => ?_, some (.credential owner spec.issuer spec.subject,
        .only (s.credential names owner spec).id), by rw [hhold]; rfl, ?_, _, _, rfl, ?_, rfl⟩
      · cases h
        exact hhold
      · rintro h ⟨⟩
        left
        rw [ids_created hc, habsent, List.nil_append]
      · have hlast : (behaviour names (.addCredential owner spec) s).2.credentialsOf owner =
            s.credentialsOf owner ++ [s.credential names owner spec] := hcreds
        simp [Deed.mutation?, hlast]

theorem mem_ids_of_getCredential {owner : ObjectId} {issuer subject : String} {s : Store}
    {c : Credential} (h : (behaviour names (.getCredential owner issuer subject) s).1 = .ok c) :
    c.id ∈ (Aim.credential owner issuer subject).ids s := by
  change s.getCredential owner issuer subject = _ at h
  rw [getCredential_eq] at h
  cases ha : s.hasApplication owner with
  | false =>
    rw [ha] at h
    cases h
  | true =>
    rw [ha] at h
    cases hf : (s.credentialsOf owner).find? (·.answers issuer subject) with
    | none =>
      rw [hf] at h
      cases h
    | some found =>
      rw [hf] at h
      cases h
      exact mem_map_filter_of_find? _ hf

theorem ids_of_getCredential_error {owner : ObjectId} {issuer subject : String} {s : Store}
    (hs : s.Sound names) {e : DirectoryError}
    (h : (behaviour names (.getCredential owner issuer subject) s).1 = .error e) :
    (Aim.credential owner issuer subject).ids s = [] := by
  cases ha : s.hasApplication owner with
  | false => simp [Aim.ids, hs.credentialsOf_stray ha]
  | true =>
    have hnot : e.isNotFound = true := by
      change s.getCredential owner issuer subject = _ at h
      rw [getCredential_eq, if_pos ha] at h
      cases hf : (s.credentialsOf owner).find? (·.answers issuer subject) with
      | some c =>
        rw [hf] at h
        cases h
      | none =>
        rw [hf] at h
        cases h
        rfl
    exact Aim.ids_eq_nil (.credential owner issuer subject) h hnot

/-- The only credential is found again, unless the call is refused or others deleted it. -/
theorem getCredential_abides {owner : ObjectId} {issuer subject : String} {id : ObjectId}
    (hhold : st.hold = some (.credential owner issuer subject, .only id)) :
    Abides names calm (fun r st' => st'.hold = st.hold ∧ st'.changes = st.changes ∧
      ∃ d : Deed, d.Quiet ∧ st'.deeds = st.deeds ++ [d] ∧ match r with
        | .ok c => c.id = id ∧ d.isRefused = false
        | .error _ => calm = true → d.isRefused = true) st
      (perform (.getCredential owner issuer subject)).run := by
  refine Abides.perform (fun _ => rfl) (fun s => ?_) (fun s hs hf => ?_)
  · exact ⟨rfl, rfl, _, Deed.quiet_error _ _ _, rfl, fun _ => rfl⟩
  · have hids : (Known.only id).Holds calm ((Aim.credential owner issuer subject).ids s) :=
      hf (_, .only id) hhold
    have hquiet : (Deed.done names (.getCredential owner issuer subject) s).Quiet :=
      Deed.quiet_lookup rfl _ _
    refine ⟨fun _ _ h => (nomatch h), st.hold, rfl, hf, rfl, rfl, _, hquiet, rfl, ?_⟩
    cases hr : (behaviour names (.getCredential owner issuer subject) s).1 with
    | ok c =>
      refine ⟨?_, by rw [Deed.done_eq hr]; rfl⟩
      have hmem := mem_ids_of_getCredential hr
      obtain hone | ⟨-, hnone⟩ := hids
      · rw [hone] at hmem
        exact List.mem_singleton.mp hmem
      · rw [hnone] at hmem
        cases hmem
    | error e =>
      rintro rfl
      obtain hone | ⟨hcalm, -⟩ := hids
      · rw [ids_of_getCredential_error hs hr] at hone
        cases hone
      · cases hcalm

theorem ensureCredential_abides (hfree : st.hold = none) (hsealed : Sealed st.deeds)
    (app : Application) (spec : CredentialSpec) :
    Abides names calm (st.Ensures calm (fun _ => True) .credentialAdded (·.id)) st
      (ensureCredential app spec).run := by
  refine Abides.ensuring (.credential app.id spec.issuer spec.subject) hfree ?_
  refine Abides.andThen (lookup_abides (.credential app.id spec.issuer spec.subject) hsealed
    (fun _ => True) fun _ _ _ _ => trivial) ?_ ?_
  · rintro (_ | c) st' ⟨hleads, h⟩
    · refine Abides.andThen (addCredential_abides h hleads.whole) ?_ ?_
      · rintro - _ ⟨id, d, hadd, hmut, rfl⟩
        refine Abides.andThen (getCredential_abides rfl) ?_ ?_
        · rintro c st'' ⟨hhold, hchanges, e, hquiet, hdeeds, rfl, hr⟩
          refine Abides.pure ⟨trivial, by rw [hhold]; rfl, hchanges.trans hleads.changes, ?_, ?_⟩
          · rw [hdeeds]
            exact hleads.whole.append_addition d hquiet.addition hr
          · rw [hdeeds, performed_append, performed_append, hmut, hquiet.mutation, hleads.performed]
            simp [Ensured.made]
        · rintro e st'' ⟨hhold, hchanges, d', hquiet, hdeeds, hr⟩
          refine .inr ⟨by rw [hhold]; rfl, hchanges.trans hleads.changes, fun hcalm => ?_,
            some id, ?_⟩
          · rw [hdeeds]
            exact not_unbroken_addition hadd (hr hcalm)
          · rw [hdeeds, performed_append, performed_append, hmut, hquiet.mutation, hleads.performed]
            simp
      · exact fun e st'' hmore => .inl (hleads.trans hmore)
    · exact Abides.pure ⟨trivial, hleads⟩
  · exact fun e st' h => .inl h.1

end Federation
