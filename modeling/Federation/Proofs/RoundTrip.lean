import Federation.Proofs.Answer
import Federation.Proofs.Canonical
import Federation.Proofs.Loaded
import Federation.Reconcile.Report

namespace Federation

namespace Json

variable {α β : Type} {fs : List (String × Json)}

theorem readString_eq_ok_iff {v : Json} {s : String} : readString v = .ok s ↔ v = .string s := by
  cases v <;> simp [readString]

theorem readStrings_eq_ok_iff {v : Json} {xs : List String} :
    readList readString v = .ok xs ↔ v = ofStrings xs := by
  refine ⟨fun h => ?_, fun h => h ▸ readList_ofStrings xs⟩
  cases v with
  | array items =>
    refine congrArg array ?_
    induction items generalizing xs with
    | nil =>
      cases h
      rfl
    | cons w rest ih =>
      change (w :: rest).mapM readString = .ok xs at h
      rw [List.mapM_cons] at h
      obtain ⟨s, hs, h⟩ := Declaration.bind_ok h
      obtain ⟨ss, hss, h⟩ := Declaration.bind_ok h
      cases h
      rw [readString_eq_ok_iff.mp hs, ih hss]
      rfl
  | null | bool _ | integer _ | double _ | string _ | object _ => cases h

theorem readStringOption_eq_ok_iff {v : Json} {o : Option String} :
    readOption readString v = .ok o ↔ v = ofOption .string o := by
  cases v <;> cases o <;> simp [readOption, readString, ofOption, Except.map, eq_comm]

theorem readList_canonical {write : α → Json} {read : Json → Except Mismatch α} {xs : List α}
    (h : ∀ a ∈ xs, read (write a).canonical = .ok a) :
    readList read (ofList write xs).canonical = .ok xs := by
  have hitems : (ofList write xs).canonical = ofList (fun a => (write a).canonical) xs := by
    simp [ofList, canonical, canonicalItems_eq_map, Function.comp_def]
  rw [hitems]
  exact readList_ofList h

theorem readOption_canonical {write : α → Json} {read : Json → Except Mismatch α} (o : Option α)
    (h : ∀ a ∈ o, read (write a).canonical = .ok a ∧ (write a).canonical ≠ .null) :
    readOption read (ofOption write o).canonical = .ok o := by
  cases o with
  | none => rfl
  | some a =>
    obtain ⟨hread, hne⟩ := h a rfl
    change readOption read (write a).canonical = _
    generalize (write a).canonical = v at hread hne
    cases v with
    | null => exact absurd rfl hne
    | bool _ | integer _ | double _ | string _ | array _ | object _ =>
      simp only [readOption, hread, Except.map]

namespace Slot

variable {s : Slot α} {v : Json} {a : α}

theorem get_of_read (place : Nat) (hv : get? s.key fs = some v) (ha : s.read v = .ok a) :
    (Source.fields fs).get place s = .ok a := by
  simp only [Source.get, hv, ha]

theorem get_of_absent (place : Nat) (hv : get? s.key fs = none) (ha : s.absent = some a) :
    (Source.fields fs).get place s = .ok a := by
  simp only [Source.get, hv, ha]

theorem get_cases {place : Nat} (h : (Source.fields fs).get place s = .ok a) :
    (∃ v, get? s.key fs = some v ∧ s.read v = .ok a) ∨
      get? s.key fs = none ∧ s.absent = some a := by
  cases hv : get? s.key fs with
  | some v =>
    simp only [Source.get, hv] at h
    exact .inl ⟨v, rfl, h⟩
  | none =>
    simp only [Source.get, hv] at h
    refine .inr ⟨rfl, ?_⟩
    cases ha : s.absent with
    | some b =>
      rw [ha] at h
      exact congrArg some (Except.ok.inj h)
    | none =>
      rw [ha] at h
      cases h

/-- A field that can be read passes its check. -/
theorem check_of_get (hfs : Sorted fs) {place : Nat} (h : (Source.fields fs).get place s = .ok a) :
    ∀ f ∈ fs, s.check f = .ok () := by
  intro f hf
  refine (check_eq_ok s f).mpr fun hkey => ?_
  obtain ⟨v, hv, ha⟩ | ⟨hnone, -⟩ := get_cases h
  · rw [← hkey, hfs.get?_of_mem hf] at hv
    cases hv
    exact ⟨a, ha⟩
  · exact absurd hkey (get?_eq_none_iff.mp hnone f hf)

end Slot

theorem checkFields_eq_ok {checks : List (String × Json → Except Mismatch Unit)}
    (h : ∀ check ∈ checks, ∀ f ∈ fs, check f = .ok ()) : checkFields checks fs = .ok () :=
  (forM_eq_ok _ _).mpr fun f hf => (forM_eq_ok _ _).mpr fun check hc => h check hc f hf

theorem readRecord_object {label : String} {checks : List (String × Json → Except Mismatch Unit)}
    {build : Source → Except Mismatch α} (h : ∀ check ∈ checks, ∀ f ∈ fs, check f = .ok ()) :
    readRecord label checks build (.object fs) = build (.fields fs) := by
  unfold readRecord
  simp only [checkFields_eq_ok h]
  rfl

theorem readOpenRecord_object {label : String}
    {checks : List (String × Json → Except Mismatch Unit)}
    {build : List (String × Json) → Except Mismatch α}
    (h : ∀ check ∈ checks, ∀ f ∈ fs, check f = .ok ()) :
    readOpenRecord label checks build (.object fs) = build fs := by
  unfold readOpenRecord
  simp only [checkFields_eq_ok h]
  rfl

def Source.Canonical : Source → Prop
  | .fields fs => ∀ k v, get? k fs = some v → v.canonical = v
  | .items vs _ => ∀ v ∈ vs, v.canonical = v

theorem source_of_readRecord {label : String}
    {checks : List (String × Json → Except Mismatch Unit)} {build : Source → Except Mismatch α}
    {v : Json} {a : α} (h : readRecord label checks build v.canonical = .ok a) :
    ∃ src, src.Canonical ∧ build src = .ok a := by
  unfold readRecord at h
  split at h
  · rename_i fields hv
    obtain ⟨-, -, h⟩ := Declaration.bind_ok h
    exact ⟨.fields fields, (sorted_of_canonical hv).2, h⟩
  · rename_i items hv
    obtain ⟨b, hb, h⟩ := Declaration.bind_ok h
    obtain ⟨-, h⟩ := Declaration.ite_error_ok h
    cases h
    exact ⟨.items items _, fun w hw => canonical_of_mem hv hw, hb⟩
  · cases h

theorem Source.Canonical.get {src : Source} (hsrc : src.Canonical) {place : Nat} {s : Slot α}
    {a : α} (h : src.get place s = .ok a) :
    (∃ v, v.canonical = v ∧ s.read v = .ok a) ∨ s.absent = some a ∨ s.cut = some a := by
  cases src with
  | fields fs =>
    obtain ⟨v, hv, ha⟩ | ⟨-, ha⟩ := Slot.get_cases h
    · exact .inl ⟨v, hsrc _ v hv, ha⟩
    · exact .inr (.inl ha)
  | items vs expected =>
    simp only [Source.get] at h
    split at h
    · rename_i v hv
      exact .inl ⟨v, hsrc v (List.mem_of_getElem? hv), h⟩
    · split at h
      · rename_i b hb
        exact .inr (.inr (hb.trans (congrArg some (Except.ok.inj h))))
      · cases h

end Json

open Json (canonical_object readRecord_object)
open Json.Slot (get_of_read check_of_get)

theorem ObjectId.ofJson_eq_ok_iff {v : Json} {id : ObjectId} :
    ofJson v = .ok id ↔ v = id.toJson := by
  obtain ⟨text⟩ := id
  cases v <;> simp [ofJson, toJson, Json.readString, Except.map]

theorem WorkloadIdentity.ofJson_toJson (i : WorkloadIdentity) :
    ofJson i.toJson.canonical = .ok i := by
  obtain ⟨gs, hgs, hsorted, hget⟩ := canonical_object
    [("display_name", .string i.displayName), ("tags", Json.ofStrings i.tags),
      ("federated_credentials", Json.ofList CredentialSpec.toJson i.credentials)] (by simp)
  have hname : (Json.Source.fields gs).get 0 nameSlot = .ok i.displayName :=
    get_of_read 0 ((hget _).trans rfl) rfl
  have htags : (Json.Source.fields gs).get 1 tagsSlot = .ok i.tags :=
    get_of_read 1 ((hget _).trans rfl) (by
      rw [Json.canonical_ofStrings]
      exact Json.readList_ofStrings i.tags)
  have hcredentials : (Json.Source.fields gs).get 2 credentialsSlot = .ok i.credentials :=
    get_of_read 2 ((hget _).trans rfl)
      (Json.readList_canonical fun c _ => CredentialSpec.ofJson_toJson c)
  have hchecks : ∀ check ∈ [nameSlot.check, tagsSlot.check, credentialsSlot.check],
      ∀ f ∈ gs, check f = .ok () := by
    simp only [List.forall_mem_cons]
    exact ⟨check_of_get hsorted hname, check_of_get hsorted htags,
      check_of_get hsorted hcredentials, List.forall_mem_nil _⟩
  rw [toJson, hgs, ofJson, readRecord_object hchecks]
  simp only [hname, htags, hcredentials]
  rfl

theorem IdentityFailure.ofJson_toJson (f : IdentityFailure) :
    ofJson f.toJson.canonical = .ok f := by
  obtain ⟨gs, hgs, hsorted, hget⟩ := canonical_object
    [("display_name", .string f.displayName), ("error", .string f.error)] (by simp)
  have hname : (Json.Source.fields gs).get 0 displayNameSlot = .ok f.displayName :=
    get_of_read 0 ((hget _).trans rfl) rfl
  have herror : (Json.Source.fields gs).get 1 errorSlot = .ok f.error :=
    get_of_read 1 ((hget _).trans rfl) rfl
  have hchecks : ∀ check ∈ [displayNameSlot.check, errorSlot.check],
      ∀ f ∈ gs, check f = .ok () := by
    simp only [List.forall_mem_cons]
    exact ⟨check_of_get hsorted hname, check_of_get hsorted herror, List.forall_mem_nil _⟩
  rw [toJson, hgs, ofJson, readRecord_object hchecks]
  simp only [hname, herror]
  rfl

namespace Change

variable {rest : List (String × Json)} {displayName name : String}

theorem readKind_name (k : Kind) : readKind (.string k.name) = .ok k := by
  cases k <;> rfl

def Readable (rest : List (String × Json)) (c : Change) : Prop :=
  Json.checkFields (checks c.kind) rest = .ok () ∧ read (.fields rest) c.kind = .ok c

theorem get_plannedId (id : Option ObjectId) (place : Nat)
    (h : Json.get? "object_id" rest = some (Json.ofOption ObjectId.toJson id).canonical) :
    (Json.Source.fields rest).get place plannedIdSlot = .ok id :=
  get_of_read place h (by cases id <;> rfl)

theorem ofJson_of_readable {gs : List (String × Json)} {c : Change}
    (hkind : Json.get? kindKey gs = some (.string c.kind.name))
    (hrest : Readable (Json.without [kindKey] gs) c) : ofJson (.object gs) = .ok c := by
  unfold ofJson
  simp only [hkind, readKind_name]
  change (do
    Json.checkFields (checks c.kind) (Json.without [kindKey] gs)
    read (.fields (Json.without [kindKey] gs)) c.kind) = _
  rw [hrest.1]
  exact hrest.2

theorem readable_of_get? (hsorted : Json.Sorted rest) (c : Change)
    (h : ∀ k, Json.get? k rest = (Json.get? k c.fields).map Json.canonical) : Readable rest c := by
  cases c with
  | applicationCreated displayName id | principalCreated displayName id =>
    have hname : (Json.Source.fields rest).get 0 displayNameSlot = .ok displayName :=
      get_of_read 0 ((h _).trans rfl) rfl
    have hid := get_plannedId id 1 ((h _).trans rfl)
    refine ⟨Json.checkFields_eq_ok (List.forall_mem_cons.mpr ⟨check_of_get hsorted hname,
      List.forall_mem_singleton.mpr (check_of_get hsorted hid)⟩), ?_⟩
    simp only [kind, read, readPlanned, hname, hid]
    rfl
  | applicationUnchanged displayName id | applicationDeleted displayName id
  | principalUnchanged displayName id | principalDeleted displayName id =>
    have hname : (Json.Source.fields rest).get 0 displayNameSlot = .ok displayName :=
      get_of_read 0 ((h _).trans rfl) rfl
    have hid : (Json.Source.fields rest).get 1 idSlot = .ok id :=
      get_of_read 1 ((h _).trans rfl) rfl
    refine ⟨Json.checkFields_eq_ok (List.forall_mem_cons.mpr ⟨check_of_get hsorted hname,
      List.forall_mem_singleton.mpr (check_of_get hsorted hid)⟩), ?_⟩
    simp only [kind, read, readObject, hname, hid]
    rfl
  | credentialAdded displayName name issuer subject id =>
    have hname : (Json.Source.fields rest).get 0 displayNameSlot = .ok displayName :=
      get_of_read 0 ((h _).trans rfl) rfl
    have hcredential : (Json.Source.fields rest).get 1 nameSlot = .ok name :=
      get_of_read 1 ((h _).trans rfl) rfl
    have hissuer : (Json.Source.fields rest).get 2 issuerSlot = .ok issuer :=
      get_of_read 2 ((h _).trans rfl) rfl
    have hsubject : (Json.Source.fields rest).get 3 subjectSlot = .ok subject :=
      get_of_read 3 ((h _).trans rfl) rfl
    have hid := get_plannedId id 4 ((h _).trans rfl)
    refine ⟨Json.checkFields_eq_ok ?_, ?_⟩
    · simp only [kind, checks, List.forall_mem_cons]
      exact ⟨check_of_get hsorted hname, check_of_get hsorted hcredential,
        check_of_get hsorted hissuer, check_of_get hsorted hsubject,
        check_of_get hsorted hid, List.forall_mem_nil _⟩
    · simp only [kind, read, hname, hcredential, hissuer, hsubject, hid]
      rfl
  | credentialUnchanged displayName name id | credentialDeleted displayName name id =>
    have hname : (Json.Source.fields rest).get 0 displayNameSlot = .ok displayName :=
      get_of_read 0 ((h _).trans rfl) rfl
    have hcredential : (Json.Source.fields rest).get 1 nameSlot = .ok name :=
      get_of_read 1 ((h _).trans rfl) rfl
    have hid : (Json.Source.fields rest).get 2 idSlot = .ok id :=
      get_of_read 2 ((h _).trans rfl) rfl
    refine ⟨Json.checkFields_eq_ok ?_, ?_⟩
    · simp only [kind, checks, List.forall_mem_cons]
      exact ⟨check_of_get hsorted hname, check_of_get hsorted hcredential,
        check_of_get hsorted hid, List.forall_mem_nil _⟩
    · simp only [kind, read, readCredential, hname, hcredential, hid]
      rfl
  | identityAbsent displayName =>
    have hname : (Json.Source.fields rest).get 0 displayNameSlot = .ok displayName :=
      get_of_read 0 ((h _).trans rfl) rfl
    refine ⟨Json.checkFields_eq_ok (List.forall_mem_singleton.mpr (check_of_get hsorted hname)), ?_⟩
    simp only [kind, read, hname]
    rfl

theorem nodup_keys (c : Change) : (kindKey :: c.fields.map (·.1)).Nodup := by
  cases c <;> simp [fields, kindKey]

theorem ofJson_toJson (c : Change) : ofJson c.toJson.canonical = .ok c := by
  obtain ⟨gs, hgs, hsorted, hget⟩ :=
    canonical_object ((kindKey, .string c.kind.name) :: c.fields) c.nodup_keys
  rw [toJson, hgs]
  refine ofJson_of_readable ((hget _).trans ?_) (readable_of_get? (hsorted.without _) c fun k => ?_)
  · simp [Json.get?, Json.canonical]
  · rw [Json.get?_without, hget]
    split
    · rename_i hk
      have hnone : Json.get? k c.fields = none := Json.get?_eq_none_iff.mpr fun f hf he =>
        (List.nodup_cons.mp c.nodup_keys).1
          (List.mem_map.mpr ⟨f, hf, he.trans (List.mem_singleton.mp hk)⟩)
      rw [hnone]
      rfl
    · rename_i hk
      have hne : kindKey ≠ k := fun he => hk (List.mem_singleton.mpr he.symm)
      rw [Json.get?, if_neg hne]

end Change

namespace ServiceError

/-- What an error can have been read from: the cause in it is canonical, and is not nothing. -/
def Told (e : ServiceError) : Prop := ∀ v ∈ e.inner, v ≠ .null ∧ v.canonical = v

theorem told_of_ofJson {v : Json} {e : ServiceError} (h : ofJson v.canonical = .ok e) : e.Told := by
  obtain ⟨src, hsrc, h⟩ := Json.source_of_readRecord h
  obtain ⟨code, -, h⟩ := Declaration.bind_ok h
  obtain ⟨message, -, h⟩ := Declaration.bind_ok h
  obtain ⟨inner, hinner, h⟩ := Declaration.bind_ok h
  cases h
  rintro w hw
  obtain rfl : inner = some w := hw
  obtain ⟨u, hu, hread⟩ | hnone | hnone := hsrc.get hinner
  -- Nothing in the place of a cause is read as no cause.
  · cases u with
    | null => cases hread
    | bool _ | integer _ | double _ | string _ | array _ | object _ =>
      cases hread
      exact ⟨nofun, hu⟩
  · cases hnone
  · cases hnone

theorem ofJson_toJson_of_told {e : ServiceError} (h : e.Told) :
    ofJson e.toJson.canonical = .ok e := by
  have hkeys : (([("code", Json.string e.code), ("message", .string e.message)] ++
      e.inner.toList.map fun v => ("innerError", v)).map (·.1)).Nodup := by
    cases e.inner <;> simp
  obtain ⟨gs, hgs, hsorted, hget⟩ := canonical_object _ hkeys
  have hcode : (Json.Source.fields gs).get 0 codeSlot = .ok e.code :=
    get_of_read 0 ((hget _).trans rfl) rfl
  have hmessage : (Json.Source.fields gs).get 1 messageSlot = .ok e.message :=
    get_of_read 1 ((hget _).trans rfl) rfl
  have hinner : (Json.Source.fields gs).get 2 innerSlot = .ok e.inner := by
    have hfield := hget "innerError"
    cases he : e.inner with
    | none =>
      rw [he] at hfield
      exact Json.Slot.get_of_absent 2 (hfield.trans rfl) rfl
    | some v =>
      rw [he] at hfield
      obtain ⟨hne, hcanonical⟩ := h v he
      refine get_of_read 2 (hfield.trans (congrArg some hcanonical)) ?_
      cases v with
      | null => exact absurd rfl hne
      | bool _ | integer _ | double _ | string _ | array _ | object _ => rfl
  have hchecks : ∀ check ∈ [codeSlot.check, messageSlot.check, innerSlot.check],
      ∀ f ∈ gs, check f = .ok () := by
    simp only [List.forall_mem_cons]
    exact ⟨check_of_get hsorted hcode, check_of_get hsorted hmessage,
      check_of_get hsorted hinner, List.forall_mem_nil _⟩
  rw [toJson, hgs, ofJson, readRecord_object hchecks]
  simp only [hcode, hmessage, hinner]
  rfl

end ServiceError

theorem Uuid.ofJson_text {u : Uuid} (h : ofText u.text = .ok u) :
    ofJson (.string u.text) = .ok u := by
  simp only [ofJson, h, Except.mapError]

theorem Instant.ofJson_text {t : Instant} (h : ofText t.text = .ok t) :
    ofJson (.string t.text) = .ok t := by
  simp only [ofJson, h, Except.mapError]

namespace Report

/-- The identifier and the times of the report are read back from their texts. -/
structure Stamped (r : Report) : Prop where
  runId : Uuid.ofText r.runId.text = .ok r.runId
  startedAt : Instant.ofText r.startedAt.text = .ok r.startedAt
  finishedAt : ∀ t ∈ r.finishedAt, Instant.ofText t.text = .ok t

theorem ofJson_toJson {r : Report} (h : r.Stamped) : ofJson r.toJson.canonical = .ok r := by
  obtain ⟨gs, hgs, hsorted, hget⟩ := canonical_object
    [("run_id", r.runId.toJson), ("action", r.action.toJson), ("dry_run", .bool r.dryRun),
      ("cancelled", .bool r.cancelled), ("started_at", r.startedAt.toJson),
      ("finished_at", Json.ofOption Instant.toJson r.finishedAt),
      ("changes", Json.ofList Change.toJson r.changes),
      ("errors", Json.ofList IdentityFailure.toJson r.errors)] (by simp)
  have hrunId : (Json.Source.fields gs).get 0 runIdSlot = .ok r.runId :=
    get_of_read 0 (v := .string r.runId.text) ((hget _).trans rfl)
      (by simp only [runIdSlot, Json.Slot.required, Uuid.ofJson_text h.runId])
  have haction : (Json.Source.fields gs).get 1 actionSlot = .ok r.action :=
    get_of_read 1 ((hget _).trans rfl) (by cases r.action <;> rfl)
  have hdryRun : (Json.Source.fields gs).get 2 dryRunSlot = .ok r.dryRun :=
    get_of_read 2 ((hget _).trans rfl) rfl
  have hcancelled : (Json.Source.fields gs).get 3 cancelledSlot = .ok r.cancelled :=
    get_of_read 3 ((hget _).trans rfl) rfl
  have hstartedAt : (Json.Source.fields gs).get 4 startedAtSlot = .ok r.startedAt :=
    get_of_read 4 (v := .string r.startedAt.text) ((hget _).trans rfl)
      (by simp only [startedAtSlot, Json.Slot.required, Instant.ofJson_text h.startedAt])
  have hfinishedAt : (Json.Source.fields gs).get 5 finishedAtSlot = .ok r.finishedAt :=
    get_of_read 5 ((hget _).trans rfl) (Json.readOption_canonical r.finishedAt fun t ht =>
      ⟨Instant.ofJson_text (h.finishedAt t ht), Json.noConfusion⟩)
  have hchanges : (Json.Source.fields gs).get 6 changesSlot = .ok r.changes :=
    get_of_read 6 ((hget _).trans rfl)
      (Json.readList_canonical fun c _ => Change.ofJson_toJson c)
  have herrors : (Json.Source.fields gs).get 7 errorsSlot = .ok r.errors :=
    get_of_read 7 ((hget _).trans rfl)
      (Json.readList_canonical fun f _ => IdentityFailure.ofJson_toJson f)
  have hchecks : ∀ check ∈ [runIdSlot.check, actionSlot.check, dryRunSlot.check,
      cancelledSlot.check, startedAtSlot.check, finishedAtSlot.check, changesSlot.check,
      errorsSlot.check], ∀ f ∈ gs, check f = .ok () := by
    simp only [List.forall_mem_cons]
    exact ⟨check_of_get hsorted hrunId, check_of_get hsorted haction,
      check_of_get hsorted hdryRun, check_of_get hsorted hcancelled,
      check_of_get hsorted hstartedAt, check_of_get hsorted hfinishedAt,
      check_of_get hsorted hchanges, check_of_get hsorted herrors, List.forall_mem_nil _⟩
  rw [toJson, hgs, ofJson, readRecord_object hchecks]
  simp only [hrunId, haction, hdryRun, hcancelled, hstartedAt, hfinishedAt, hchanges, herrors]
  rfl

end Report

end Federation
