import Mathlib.Data.List.Basic
import Federation.Directory.Gateway

namespace Federation

namespace Response

/-- The body carries an error of the service. -/
def Reports (r : Response) (e : ServiceError) : Prop :=
  ∃ fs es, r.body = .object fs ∧ Json.get? Envelope.errorKey fs = some (.object es) ∧
    ServiceError.ofJson (.object es) = .ok e

/-- Whatever the body has under the key of errors is nothing. -/
def Clean (r : Response) : Prop :=
  ∀ fs v, r.body = .object fs → Json.get? Envelope.errorKey fs = some v → v = .null

end Response

/-- The fields of a collection with the given items. Without a list there are none; a list of
which one item cannot be read makes no collection. -/
def Json.Collects {α : Type} (read : Json → Except Mismatch α) (fs : List (String × Json))
    (items : List α) : Prop :=
  (∀ f ∈ fs, f.1 = "value" → ∃ as, Json.readList read f.2 = .ok as) ∧
    match Json.get? "value" fs with
    | none => items = []
    | some v => Json.readList read v = .ok items

namespace Call

/-- The answer that a body without an error gives to a call. -/
def Gives : (c : Call) → Json → c.Answer → Prop
  | .createApplication _, body, a => (∃ fs, body = .object fs) ∧ Application.ofJson body = .ok a
  | .createServicePrincipal .., body, a =>
    (∃ fs, body = .object fs) ∧ ServicePrincipal.ofJson body = .ok a
  | .getApplication _, body, a =>
    ∃ fs items, body = .object fs ∧ Json.Collects Application.ofJson fs items ∧
      items.head? = some a
  | .getServicePrincipal _, body, a =>
    ∃ fs items, body = .object fs ∧ Json.Collects ServicePrincipal.ofJson fs items ∧
      items.head? = some a
  | .getCredential _ issuer subject, body, a =>
    ∃ fs items, body = .object fs ∧ Json.Collects Credential.ofJson fs items ∧
      items.find? (·.answers issuer subject) = some a
  | .addCredential .., body, _ => ∃ fs, body = .object fs
  | .deleteApplication _, body, _ | .deleteServicePrincipal _, body, _
  | .deleteCredential .., body, _ => body = .null ∨ ∃ fs, body = .object fs

/-- The body is a collection without an item that the call looks for. -/
def Lacks : Call → Json → Prop
  | .getApplication _, body =>
    ∃ fs, body = .object fs ∧ Json.Collects Application.ofJson fs []
  | .getServicePrincipal _, body =>
    ∃ fs, body = .object fs ∧ Json.Collects ServicePrincipal.ofJson fs []
  | .getCredential _ issuer subject, body =>
    ∃ fs items, body = .object fs ∧ Json.Collects Credential.ofJson fs items ∧
      ∀ c ∈ items, ¬ (c.issuer = issuer ∧ c.subject = subject)
  | _, _ => False

def absence? : Call → Option DirectoryError
  | .getApplication displayName => some (.notFound .application displayName)
  | .getServicePrincipal displayName => some (.notFound .servicePrincipal displayName)
  | .getCredential _ issuer subject => some (.credentialNotFound issuer subject)
  | _ => none

theorem Gives.shape {c : Call} {body : Json} {a : c.Answer} (h : c.Gives body a) :
    (∃ fs, body = .object fs) ∨ (c.isDelete = true ∧ body = .null) := by
  cases c with
  | createApplication _ | createServicePrincipal _ _ => exact .inl h.1
  | getApplication _ | getServicePrincipal _ | getCredential _ _ _ =>
    obtain ⟨fs, -, hb, -⟩ := h
    exact .inl ⟨fs, hb⟩
  | addCredential _ _ => exact .inl h
  | deleteApplication _ | deleteServicePrincipal _ | deleteCredential _ _ =>
    exact h.elim (fun hn => .inr ⟨rfl, hn⟩) .inl

theorem Lacks.object {c : Call} {body : Json} (h : c.Lacks body) : ∃ fs, body = .object fs := by
  cases c with
  | getApplication _ | getServicePrincipal _ =>
    obtain ⟨fs, hb, -⟩ := h
    exact ⟨fs, hb⟩
  | getCredential _ _ _ =>
    obtain ⟨fs, -, hb, -⟩ := h
    exact ⟨fs, hb⟩
  | _ => exact h.elim

end Call

namespace Json

variable {α : Type}

theorem forM_eq_ok {ε β : Type} (check : β → Except ε Unit) (xs : List β) :
    forM xs check = .ok () ↔ ∀ x ∈ xs, check x = .ok () := by
  induction xs with
  | nil => simp [pure, Except.pure]
  | cons x xs ih =>
    rw [List.forM_cons]
    cases hx : check x with
    | error e => simp [bind, Except.bind, hx]
    | ok u => simp [bind, Except.bind, hx, ih]

theorem checkFields_singleton (check : String × Json → Except Mismatch Unit)
    (fs : List (String × Json)) :
    checkFields [check] fs = .ok () ↔ ∀ f ∈ fs, check f = .ok () := by
  unfold checkFields
  simp only [List.forM_eq_forM, List.forM_cons, List.forM_nil, bind_pure_unit]
  exact forM_eq_ok check fs

theorem check_eq_ok {β : Type} (s : Slot β) (f : String × Json) :
    s.check f = .ok () ↔ (f.1 = s.key → ∃ b, s.read f.2 = .ok b) := by
  unfold Slot.check
  by_cases hk : f.1 = s.key
  · cases hr : s.read f.2 <;> simp [hk, Except.map]
  · simp [hk]

theorem readRecord_collects (read : Json → Except Mismatch α) (fs : List (String × Json))
    (items : List α) :
    readRecord "struct Collection" [(Response.itemsSlot read).check]
      (fun src => src.get 0 (Response.itemsSlot read)) (.object fs) = .ok items ↔
      Collects read fs items := by
  have hc := checkFields_singleton (Response.itemsSlot read).check fs
  simp only [check_eq_ok] at hc
  cases hf : checkFields [(Response.itemsSlot read).check] fs with
  | error why =>
    have hn : ¬ Collects read fs items := fun h => by
      have := hc.mpr h.1
      rw [hf] at this
      cases this
    simp [readRecord, hf, bind, Except.bind, hn]
  | ok u =>
    have hall := hc.mp hf
    simp only [readRecord, hf, bind, Except.bind, Source.get, Collects]
    refine Iff.trans ?_ (and_iff_right hall).symm
    cases hv : get? "value" fs with
    | none => simp [Response.itemsSlot, Slot.defaulted, hv, eq_comm]
    | some v => simp [Response.itemsSlot, Slot.defaulted, hv]

theorem collects_unique {read : Json → Except Mismatch α} {fs : List (String × Json)}
    {items items' : List α} (h : Collects read fs items) (h' : Collects read fs items') :
    items = items' := by
  have hi := (readRecord_collects read fs items).mpr h
  rw [(readRecord_collects read fs items').mpr h'] at hi
  exact (Except.ok.inj hi).symm

end Json

namespace Response

variable {α : Type} {r : Response}

theorem fields_of_reports {e : ServiceError} (h : r.Reports e) :
    r.fields = .error (.service e) := by
  obtain ⟨fs, es, hb, he, hr⟩ := h
  simp [fields, hb, Envelope.classify, he, hr, Envelope.verdict, bind, Except.bind]

theorem fields_of_garbled (hn : ∀ e, ¬ r.Reports e) (hc : ¬ r.Clean) :
    ∃ why, r.fields = .error (.body why) := by
  simp only [Clean, not_forall] at hc
  obtain ⟨fs, v, hb, he, hv⟩ := hc
  cases v with
  | null => exact absurd rfl hv
  | object es =>
    cases hr : ServiceError.ofJson (.object es) with
    | ok e => exact absurd ⟨fs, es, hb, he, hr⟩ (hn e)
    | error why =>
      exact ⟨.envelopeShape why, by
        simp [fields, hb, Envelope.classify, he, hr, Envelope.verdict, bind, Except.bind]⟩
  | bool _ | integer _ | double _ | string _ | array _ =>
    exact ⟨.envelopeKind _, by
      simp [fields, hb, Envelope.classify, he, Envelope.verdict, bind, Except.bind]; rfl⟩

theorem classify_of_clean (hc : r.Clean) {fs : List (String × Json)} (hb : r.body = .object fs) :
    Envelope.classify fs = .clean := by
  unfold Envelope.classify
  cases he : Json.get? Envelope.errorKey fs with
  | none => rfl
  | some v => rw [hc fs v hb he]

theorem fields_of_failure (hc : r.Clean) (hs : r.isSuccess = false) :
    ∃ text, r.fields = .error (.transport (.status r.status text)) := by
  cases hb : r.body with
  | object fs =>
    exact ⟨_, by simp [fields, hb, classify_of_clean hc hb, hs, Envelope.verdict, statusError,
      bind, Except.bind]; rfl⟩
  | null | bool _ | integer _ | double _ | string _ | array _ =>
    exact ⟨_, by simp [fields, hb, hs, statusError]; rfl⟩

theorem fields_of_success (hc : r.Clean) (hs : r.isSuccess = true) {fs : List (String × Json)}
    (hb : r.body = .object fs) : r.fields = .ok fs := by
  simp [fields, hb, classify_of_clean hc hb, hs, Envelope.verdict, bind, Except.bind]

theorem fields_of_other (hs : r.isSuccess = true) (hb : ∀ fs, r.body ≠ .object fs) :
    ∃ why, r.fields = .error (.body why) := by
  cases hv : r.body with
  | object fs => exact absurd hv (hb fs)
  | null => exact ⟨.empty, by simp [fields, hv, hs]⟩
  | bool _ | integer _ | double _ | string _ | array _ =>
    exact ⟨.notObject _, by simp [fields, hv, hs]; rfl⟩

theorem outcome_of_fields_error {e : DirectoryError} (h : r.fields = .error e) (c : Call)
    (hn : c.isDelete = true → r.body ≠ .null) : r.outcome c = .error e := by
  cases c with
  | createApplication _ | createServicePrincipal _ _ =>
    simp [outcome, decode, h, bind, Except.bind]
  | getApplication _ | getServicePrincipal _ | getCredential _ _ _ =>
    simp [outcome, decodeItems, decode, h, bind, Except.bind]
  | addCredential _ _ => simp [outcome, h, Except.map]
  | deleteApplication _ | deleteServicePrincipal _ | deleteCredential _ _ =>
    simp [outcome, acknowledge, hn rfl, h, Except.map]

theorem outcome_of_null {c : Call} (hd : c.isDelete = true) (hb : r.body = .null) :
    (∀ a, c.Gives r.body a) ∧ (r.isSuccess = true → ∃ a, r.outcome c = .ok a ∧ ∀ b, b = a) ∧
      (r.isSuccess = false → r.outcome c = .error (.transport (.status r.status ""))) := by
  cases c with
  | deleteApplication _ | deleteServicePrincipal _ | deleteCredential _ _ =>
    refine ⟨fun _ => .inl hb, fun hs => ⟨(), ?_, fun _ => rfl⟩, fun hs => ?_⟩
    · simp [outcome, acknowledge, hb, hs]
    · simp [outcome, acknowledge, hb, hs, statusError]
  | _ => simp [Call.isDelete] at hd

theorem decode_eq_ok {fs : List (String × Json)} (hb : r.body = .object fs)
    (h : r.fields = .ok fs) (read : Json → Except Mismatch α) (a : α) :
    r.decode read = .ok a ↔ read r.body = .ok a := by
  unfold decode
  cases hr : read r.body <;> simp [h, ← hb, hr, bind, Except.bind, Except.mapError]

theorem decode_error {fs : List (String × Json)} (hb : r.body = .object fs)
    (h : r.fields = .ok fs) (read : Json → Except Mismatch α) {e : DirectoryError}
    (he : r.decode read = .error e) : ∃ why, e = .body why := by
  unfold decode at he
  cases hr : read r.body with
  | ok a => simp [h, ← hb, hr, bind, Except.bind, Except.mapError] at he
  | error why =>
    simp only [h, ← hb, hr, bind, Except.bind, Except.mapError, Except.error.injEq] at he
    exact ⟨_, he.symm⟩

theorem decodeItems_eq_ok {fs : List (String × Json)} (hb : r.body = .object fs)
    (h : r.fields = .ok fs) (read : Json → Except Mismatch α) (items : List α) :
    r.decodeItems read = .ok items ↔ Json.Collects read fs items := by
  unfold decodeItems
  rw [decode_eq_ok hb h, hb]
  exact Json.readRecord_collects read fs items

def firstOf (read : Json → Except Mismatch α) (p : α → Bool) (e : DirectoryError) (r : Response) :
    Except DirectoryError α := do
  firstOr e ((← r.decodeItems read).filter p)

theorem firstOf_items {fs : List (String × Json)} (hb : r.body = .object fs)
    (h : r.fields = .ok fs) {read : Json → Except Mismatch α} {items : List α}
    (hi : Json.Collects read fs items) (p : α → Bool) (e : DirectoryError) :
    r.firstOf read p e = firstOr e (items.filter p) := by
  unfold firstOf
  rw [(decodeItems_eq_ok hb h read items).mpr hi]
  rfl

theorem firstOf_unreadable {fs : List (String × Json)} (hb : r.body = .object fs)
    (h : r.fields = .ok fs) {read : Json → Except Mismatch α}
    (hn : ∀ items, ¬ Json.Collects read fs items) (p : α → Bool) (e : DirectoryError) :
    ∃ why, r.firstOf read p e = .error (.body why) := by
  unfold firstOf
  cases hd : r.decodeItems read with
  | ok items => exact absurd ((decodeItems_eq_ok hb h read items).mp hd) (hn items)
  | error e' =>
    obtain ⟨why, rfl⟩ := decode_error hb h _ hd
    exact ⟨why, rfl⟩

theorem firstOf_eq_ok {fs : List (String × Json)} (hb : r.body = .object fs)
    (h : r.fields = .ok fs) (read : Json → Except Mismatch α) (p : α → Bool) (e : DirectoryError)
    (a : α) :
    r.firstOf read p e = .ok a ↔
      ∃ items, Json.Collects read fs items ∧ (items.filter p).head? = some a := by
  by_cases hc : ∃ items, Json.Collects read fs items
  · obtain ⟨items, hi⟩ := hc
    rw [firstOf_items hb h hi]
    constructor
    · intro hf
      refine ⟨items, hi, ?_⟩
      cases hl : items.filter p with
      | nil => simp [hl, firstOr] at hf
      | cons b rest => simpa [hl, firstOr] using hf
    · rintro ⟨items', hi', hf⟩
      obtain rfl := Json.collects_unique hi' hi
      obtain ⟨rest, hl⟩ := List.head?_eq_some_iff.mp hf
      rw [hl, firstOr]
  · obtain ⟨why, hw⟩ := firstOf_unreadable hb h (not_exists.mp hc) p e
    rw [hw]
    exact ⟨nofun, fun ⟨items, hi, _⟩ => absurd ⟨items, hi⟩ hc⟩

theorem firstOf_eq_error {fs : List (String × Json)} (hb : r.body = .object fs)
    (h : r.fields = .ok fs) (read : Json → Except Mismatch α) (p : α → Bool)
    (e e' : DirectoryError) (he : e'.isNotFound = true) :
    r.firstOf read p e = .error e' ↔
      e = e' ∧ ∃ items, Json.Collects read fs items ∧ items.filter p = [] := by
  by_cases hc : ∃ items, Json.Collects read fs items
  · obtain ⟨items, hi⟩ := hc
    rw [firstOf_items hb h hi]
    constructor
    · intro hf
      cases hl : items.filter p with
      | nil => exact ⟨by simpa [hl, firstOr] using hf, items, hi, hl⟩
      | cons b rest => simp [hl, firstOr] at hf
    · rintro ⟨rfl, items', hi', hn⟩
      obtain rfl := Json.collects_unique hi' hi
      rw [hn, firstOr]
  · obtain ⟨why, hw⟩ := firstOf_unreadable hb h (not_exists.mp hc) p e
    rw [hw]
    refine ⟨fun hf => ?_, fun ⟨_, items, hi, _⟩ => absurd ⟨items, hi⟩ hc⟩
    obtain rfl := Except.error.inj hf
    simp [DirectoryError.isNotFound] at he

theorem outcome_eq_ok {fs : List (String × Json)} (hb : r.body = .object fs)
    (h : r.fields = .ok fs) (c : Call) (a : c.Answer) :
    r.outcome c = .ok a ↔ c.Gives r.body a := by
  cases c with
  | createApplication _ | createServicePrincipal _ _ =>
    simp only [outcome, Call.Gives, decode_eq_ok hb h]
    exact (and_iff_right ⟨fs, hb⟩).symm
  | getApplication displayName =>
    have hf := firstOf_eq_ok hb h Application.ofJson (fun _ => true)
      (.notFound .application displayName) a
    simpa [firstOf, outcome, Call.Gives, hb] using hf
  | getServicePrincipal displayName =>
    have hf := firstOf_eq_ok hb h ServicePrincipal.ofJson (fun _ => true)
      (.notFound .servicePrincipal displayName) a
    simpa [firstOf, outcome, Call.Gives, hb] using hf
  | getCredential _ issuer subject =>
    have hf := firstOf_eq_ok hb h Credential.ofJson (·.answers issuer subject)
      (.credentialNotFound issuer subject) a
    simpa [firstOf, outcome, Call.Gives, hb, List.head?_filter] using hf
  | addCredential _ _ => simp [outcome, Call.Gives, h, hb, Except.map]
  | deleteApplication _ | deleteServicePrincipal _ | deleteCredential _ _ =>
    simp [outcome, acknowledge, Call.Gives, h, hb, Except.map]

theorem outcome_eq_absence {fs : List (String × Json)} (hb : r.body = .object fs)
    (h : r.fields = .ok fs) (c : Call) (e : DirectoryError) (he : e.isNotFound = true) :
    r.outcome c = .error e ↔ c.absence? = some e ∧ c.Lacks r.body := by
  have hne : ∀ why, e ≠ .body why := by
    rintro why rfl
    cases he
  cases c with
  | createApplication _ | createServicePrincipal _ _ =>
    simp only [outcome, Call.Lacks, and_false, iff_false]
    intro hd
    obtain ⟨why, hw⟩ := decode_error hb h _ hd
    exact hne why hw
  | getApplication displayName =>
    have hf := firstOf_eq_error hb h Application.ofJson (fun _ => true)
      (.notFound .application displayName) e he
    simpa [firstOf, outcome, Call.Lacks, Call.absence?, hb] using hf
  | getServicePrincipal displayName =>
    have hf := firstOf_eq_error hb h ServicePrincipal.ofJson (fun _ => true)
      (.notFound .servicePrincipal displayName) e he
    simpa [firstOf, outcome, Call.Lacks, Call.absence?, hb] using hf
  | getCredential _ issuer subject =>
    have hf := firstOf_eq_error hb h Credential.ofJson (·.answers issuer subject)
      (.credentialNotFound issuer subject) e he
    simpa [firstOf, outcome, Call.Lacks, Call.absence?, hb, Credential.answers] using hf
  | addCredential _ _ => simp [outcome, Call.Lacks, h, Except.map]
  | deleteApplication _ | deleteServicePrincipal _ | deleteCredential _ _ =>
    simp [outcome, acknowledge, Call.Lacks, h, hb, Except.map]

theorem body_ne_null (h : ¬ r.Clean) : r.body ≠ .null := fun hb =>
  h fun fs v hf => by simp [hb] at hf

theorem Reports.not_clean {e : ServiceError} (h : r.Reports e) : ¬ r.Clean := by
  obtain ⟨fs, es, hb, he, -⟩ := h
  intro hc
  cases hc fs _ hb he

theorem outcome_of_reports {e : ServiceError} (h : r.Reports e) (c : Call) :
    r.outcome c = .error (.service e) :=
  outcome_of_fields_error (fields_of_reports h) c fun _ => body_ne_null h.not_clean

theorem outcome_of_garbled (c : Call) (hn : ∀ e, ¬ r.Reports e) (hc : ¬ r.Clean) :
    ∃ why, r.outcome c = .error (.body why) := by
  obtain ⟨why, hw⟩ := fields_of_garbled hn hc
  exact ⟨why, outcome_of_fields_error hw c fun _ => body_ne_null hc⟩

theorem outcome_of_failure (c : Call) (hc : r.Clean) (hs : r.isSuccess = false) :
    ∃ text, r.outcome c = .error (.transport (.status r.status text)) := by
  by_cases hd : c.isDelete = true ∧ r.body = .null
  · exact ⟨"", (outcome_of_null hd.1 hd.2).2.2 hs⟩
  · obtain ⟨text, ht⟩ := fields_of_failure hc hs
    exact ⟨text, outcome_of_fields_error ht c (not_and.mp hd)⟩

theorem outcome_of_other (c : Call) (hs : r.isSuccess = true) (hb : ∀ fs, r.body ≠ .object fs)
    (hd : c.isDelete = true → r.body ≠ .null) : ∃ why, r.outcome c = .error (.body why) := by
  obtain ⟨why, hw⟩ := fields_of_other hs hb
  exact ⟨why, outcome_of_fields_error hw c hd⟩

theorem outcome_of_success (c : Call) (hc : r.Clean) (hs : r.isSuccess = true) (a : c.Answer) :
    r.outcome c = .ok a ↔ c.Gives r.body a := by
  by_cases hb : ∃ fs, r.body = .object fs
  · obtain ⟨fs, hb⟩ := hb
    exact outcome_eq_ok hb (fields_of_success hc hs hb) c a
  by_cases hd : c.isDelete = true ∧ r.body = .null
  · obtain ⟨hg, ho, -⟩ := outcome_of_null hd.1 hd.2
    obtain ⟨b, hb, hu⟩ := ho hs
    exact iff_of_true (hu a ▸ hb) (hg a)
  · obtain ⟨why, hw⟩ := outcome_of_other c hs (not_exists.mp hb) (not_and.mp hd)
    rw [hw]
    refine iff_of_false nofun fun hg => ?_
    rcases Call.Gives.shape hg with ho | hn
    · exact hb ho
    · exact hd hn

/-- Only a success whose body is an object without an error can say that nothing was found. -/
theorem object_of_absence {c : Call} {e : DirectoryError} (h : r.outcome c = .error e)
    (he : e.isNotFound = true) :
    r.Clean ∧ r.isSuccess = true ∧ ∃ fs, r.body = .object fs := by
  have hc : r.Clean := by
    by_contra hn
    by_cases hr : ∃ e', r.Reports e'
    · obtain ⟨e', hr⟩ := hr
      rw [outcome_of_reports hr c] at h
      cases h
      cases he
    · obtain ⟨why, hw⟩ := outcome_of_garbled c (not_exists.mp hr) hn
      rw [hw] at h
      cases h
      cases he
  have hs : r.isSuccess = true := by
    by_contra hf
    obtain ⟨text, ht⟩ := outcome_of_failure c hc (Bool.eq_false_iff.mpr hf)
    rw [ht] at h
    cases h
    cases he
  refine ⟨hc, hs, ?_⟩
  by_contra hb
  by_cases hd : c.isDelete = true ∧ r.body = .null
  · obtain ⟨a, ha, -⟩ := (outcome_of_null hd.1 hd.2).2.1 hs
    rw [ha] at h
    cases h
  · obtain ⟨why, hw⟩ := outcome_of_other c hs (not_exists.mp hb) (not_and.mp hd)
    rw [hw] at h
    cases h
    cases he

end Response

/-- The body of an answer is looked at before its status, and its status before the rest of the
body: for every call, every transport and every answer. -/
theorem Gateway.envelope_first {σ : Type} (send : Transport σ) (c : Call) (s s' : σ) (r : Response)
    (hr : send c.request s = (.ok r, s')) :
    (∀ e, r.Reports e → (Gateway.behaviour send c s).1 = .error (.service e)) ∧
    ((∀ e, ¬ r.Reports e) → ¬ r.Clean →
      ∃ why, (Gateway.behaviour send c s).1 = .error (.body why)) ∧
    (r.Clean → r.isSuccess = false →
      ∃ text, (Gateway.behaviour send c s).1 = .error (.transport (.status r.status text))) ∧
    (r.Clean → r.isSuccess = true →
      ∀ a, (Gateway.behaviour send c s).1 = .ok a ↔ c.Gives r.body a) ∧
    ∀ e, e.isNotFound = true →
      ((Gateway.behaviour send c s).1 = .error e ↔
        c.absence? = some e ∧ r.Clean ∧ r.isSuccess = true ∧ c.Lacks r.body) := by
  have ho : (Gateway.behaviour send c s).1 = r.outcome c := by rw [Gateway.behaviour, hr]
  rw [ho]
  refine ⟨fun e he => r.outcome_of_reports he c, r.outcome_of_garbled c, r.outcome_of_failure c,
    r.outcome_of_success c, fun e he => ⟨fun h => ?_, ?_⟩⟩
  · obtain ⟨hc, hs, fs, hb⟩ := Response.object_of_absence h he
    have hl := (Response.outcome_eq_absence hb (Response.fields_of_success hc hs hb) c e he).mp h
    exact ⟨hl.1, hc, hs, hl.2⟩
  · rintro ⟨ha, hc, hs, hl⟩
    obtain ⟨fs, hb⟩ := hl.object
    exact (Response.outcome_eq_absence hb (Response.fields_of_success hc hs hb) c e he).mpr
      ⟨ha, hl⟩

/-- A denied lookup is no empty one, though its status is a success and its list is empty. -/
theorem Gateway.denied_lookup :
    let send : Transport Unit := fun _ s => (.ok ⟨200, .object [("error", .object
      [("code", .string "Denied"), ("message", .string "no")]), ("value", .array [])]⟩, s)
    send (Call.getApplication "payments").request () = (.ok ⟨200, .object [("error", .object
      [("code", .string "Denied"), ("message", .string "no")]), ("value", .array [])]⟩, ()) ∧
    (Gateway.behaviour send (.getApplication "payments") ()).1 =
      .error (.service ⟨"Denied", "no", none⟩) :=
  ⟨rfl, (envelope_first _ _ _ () _ rfl).1 _ ⟨_, _, rfl, rfl, rfl⟩⟩

end Federation
