import Federation.Directory.Rehearsal
import Federation.Proofs.Answer
import Federation.Proofs.Attempt
import Federation.Proofs.Unique

namespace Federation

open Attempt

namespace Response

variable {r : Response} {c : Call}

def Yields (r : Response) (c : Call) (a : c.Answer) : Prop :=
  r.Clean ∧ r.isSuccess = true ∧ c.Gives r.body a

/-- The answer says that there is nothing of what the call looks for. -/
def Confirms (r : Response) (c : Call) : Prop := r.Clean ∧ r.isSuccess = true ∧ c.Lacks r.body

/-- The answer is none to the call: it reports an error, or has one that cannot be read, or another
status than success, or a body that cannot be made use of. -/
inductive Faults (r : Response) (c : Call) : DirectoryError → Prop
  | reported {e : ServiceError} (h : r.Reports e) : Faults r c (.service e)
  | garbled (why : BodyFault) (hn : ∀ e, ¬ r.Reports e) (hc : ¬ r.Clean) : Faults r c (.body why)
  | failed (text : String) (hc : r.Clean) (hs : r.isSuccess = false) :
    Faults r c (.transport (.status r.status text))
  | unusable (why : BodyFault) (hc : r.Clean) (hs : r.isSuccess = true)
    (hg : ∀ a, ¬ c.Gives r.body a) (hl : ¬ c.Lacks r.body) : Faults r c (.body why)

theorem Faults.isNotFound {e : DirectoryError} (h : r.Faults c e) : e.isNotFound = false := by
  cases h <;> rfl

theorem Confirms.outcome (h : r.Confirms c) :
    ∃ e, r.outcome c = .error e ∧ e.isNotFound = true := by
  obtain ⟨hc, hs, hl⟩ := h
  obtain ⟨fs, hb⟩ := hl.object
  obtain ⟨e, he, hn⟩ : ∃ e, c.absence? = some e ∧ e.isNotFound = true := by
    cases c with
    | getApplication _ | getServicePrincipal _ | getCredential _ _ _ => exact ⟨_, rfl, rfl⟩
    | _ => cases hl
  exact ⟨e, (outcome_eq_absence hb (fields_of_success hc hs hb) c e hn).mpr ⟨he, hl⟩, hn⟩

theorem firstOf_error {α : Type} {fs : List (String × Json)} (hb : r.body = .object fs)
    (h : r.fields = .ok fs) (read : Json → Except Mismatch α) (p : α → Bool)
    {e e' : DirectoryError} (hn : e.isNotFound = true) (he : r.firstOf read p e = .error e') :
    e'.isNotFound = true ∨ ∃ why, e' = .body why := by
  by_cases hc : ∃ items, Json.Collects read fs items
  · obtain ⟨items, hi⟩ := hc
    rw [firstOf_items hb h hi] at he
    cases hl : items.filter p with
    | nil =>
      rw [hl] at he
      cases he
      exact .inl hn
    | cons a rest =>
      rw [hl] at he
      cases he
  · obtain ⟨why, hw⟩ := firstOf_unreadable hb h (not_exists.mp hc) p e
    rw [hw] at he
    cases he
    exact .inr ⟨why, rfl⟩

theorem outcome_error {fs : List (String × Json)} (hb : r.body = .object fs)
    (h : r.fields = .ok fs) {e : DirectoryError} (he : r.outcome c = .error e) :
    e.isNotFound = true ∨ ∃ why, e = .body why := by
  cases c with
  | createApplication _ | createServicePrincipal _ _ => exact .inr (decode_error hb h _ he)
  | getApplication displayName =>
    have hfirst : r.firstOf Application.ofJson (fun _ => true)
        (.notFound .application displayName) = .error e := by simpa [firstOf, outcome] using he
    exact firstOf_error hb h _ _ rfl hfirst
  | getServicePrincipal displayName =>
    have hfirst : r.firstOf ServicePrincipal.ofJson (fun _ => true)
        (.notFound .servicePrincipal displayName) = .error e := by simpa [firstOf, outcome] using he
    exact firstOf_error hb h _ _ rfl hfirst
  | getCredential _ issuer subject =>
    exact firstOf_error hb h Credential.ofJson (·.answers issuer subject) rfl he
  | addCredential _ _ => simp [outcome, h, Except.map] at he
  | deleteApplication _ | deleteServicePrincipal _ | deleteCredential _ _ =>
    simp [outcome, acknowledge, h, hb, Except.map] at he

theorem lacks_of_absence {e : DirectoryError} (ho : r.outcome c = .error e)
    (he : e.isNotFound = true) : c.Lacks r.body := by
  obtain ⟨hc, hs, fs, hb⟩ := object_of_absence ho he
  exact ((outcome_eq_absence hb (fields_of_success hc hs hb) c e he).mp ho).2

theorem body_of_error (hc : r.Clean) (hs : r.isSuccess = true) {e : DirectoryError}
    (ho : r.outcome c = .error e) (he : e.isNotFound ≠ true) : ∃ why, e = .body why := by
  by_cases hb : ∃ fs, r.body = .object fs
  · obtain ⟨fs, hb⟩ := hb
    exact (outcome_error hb (fields_of_success hc hs hb) ho).resolve_left he
  by_cases hd : c.isDelete = true ∧ r.body = .null
  · obtain ⟨a, ha, -⟩ := (outcome_of_null hd.1 hd.2).2.1 hs
    rw [ha] at ho
    cases ho
  · obtain ⟨why, hw⟩ := outcome_of_other c hs (not_exists.mp hb) (not_and.mp hd)
    exact ⟨why, Except.error.inj (ho.symm.trans hw)⟩

theorem outcome_cases (r : Response) (c : Call) :
    (∃ a, r.outcome c = .ok a ∧ r.Yields c a) ∨
      (∃ e, r.outcome c = .error e ∧ e.isNotFound = true ∧ r.Confirms c) ∨
      ∃ e, r.outcome c = .error e ∧ r.Faults c e := by
  by_cases hreports : ∃ e, r.Reports e
  · obtain ⟨e, he⟩ := hreports
    exact .inr (.inr ⟨_, outcome_of_reports he c, .reported he⟩)
  have hn := not_exists.mp hreports
  by_cases hc : r.Clean
  swap
  · obtain ⟨why, hw⟩ := outcome_of_garbled c hn hc
    exact .inr (.inr ⟨_, hw, .garbled why hn hc⟩)
  cases hs : r.isSuccess with
  | false =>
    obtain ⟨text, ht⟩ := outcome_of_failure c hc hs
    exact .inr (.inr ⟨_, ht, .failed text hc hs⟩)
  | true =>
    have hgives := outcome_of_success c hc hs
    cases ho : r.outcome c with
    | ok a => exact .inl ⟨a, rfl, hc, hs, (hgives a).mp ho⟩
    | error e =>
      right
      have hg : ∀ a, ¬ c.Gives r.body a := fun a ha => by
        rw [(hgives a).mpr ha] at ho
        cases ho
      by_cases hl : c.Lacks r.body
      · obtain ⟨e', he', hn'⟩ := Confirms.outcome ⟨hc, hs, hl⟩
        obtain rfl : e' = e := Except.error.inj (he'.symm.trans ho)
        exact .inl ⟨e', rfl, hn', hc, hs, hl⟩
      · obtain ⟨why, rfl⟩ := body_of_error hc hs ho fun hn => hl (lacks_of_absence ho hn)
        exact .inr ⟨_, rfl, .unusable why hc hs hg hl⟩

theorem outcome_eq_ok_iff (r : Response) (c : Call) (a : c.Answer) :
    r.outcome c = .ok a ↔ r.Yields c a := by
  refine ⟨fun ho => ?_, fun ⟨hc, hs, hg⟩ => (outcome_of_success c hc hs a).mpr hg⟩
  obtain ⟨b, hb, hr⟩ | ⟨e, he, -⟩ | ⟨e, he, -⟩ := r.outcome_cases c
  · rw [Except.ok.inj (ho.symm.trans hb)]
    exact hr
  · cases ho.symm.trans he
  · cases ho.symm.trans he

end Response

namespace ScriptedTransport

variable {t : ScriptedTransport}

theorem send_dead (h : t.cancelled = true) (request : Request) :
    send request t = (.error .cancelled, t) := if_pos h

theorem requests_send (h : t.cancelled = false) (request : Request) :
    (send request t).2.requests = t.requests ++ [request] := by
  unfold send
  rw [if_neg (by simp [h])]
  dsimp only
  split <;> rfl

theorem requests_send_prefix (t : ScriptedTransport) (request : Request) :
    ∃ sent, (send request t).2.requests = t.requests ++ sent ∧ sent <+: [request] := by
  cases h : t.cancelled with
  | true => exact ⟨[], by rw [send_dead h, List.append_nil], List.nil_prefix⟩
  | false => exact ⟨[request], requests_send h request, List.prefix_rfl⟩

theorem behaviour_eq (c : Call) (t : ScriptedTransport) :
    behaviour c t = (match (send c.request t).1 with
      | .ok r => r.outcome c
      | .error why => .error (.transport why), (send c.request t).2) := by
  unfold behaviour Gateway.behaviour
  rcases send c.request t with ⟨r | why, u⟩ <;> rfl

theorem behaviour_snd (c : Call) (t : ScriptedTransport) :
    (behaviour c t).2 = (send c.request t).2 := by
  rw [behaviour_eq]

theorem behaviour_eq_ok (c : Call) (t : ScriptedTransport) (a : c.Answer) :
    (behaviour c t).1 = .ok a ↔ ∃ r, (send c.request t).1 = .ok r ∧ r.Yields c a := by
  rw [behaviour_eq]
  cases h : (send c.request t).1 with
  | error why => simp
  | ok r => simp [Response.outcome_eq_ok_iff]

/-- What a lookup comes to: its request was not answered, or the answer is none, or it says that
there is nothing, or gives what was looked for. -/
inductive Sought (c : Call) (t : ScriptedTransport) :
    Except ReconcileError (Option c.Answer) → Prop
  | unanswered {why : TransportError} (h : (send c.request t).1 = .error why) :
    Sought c t (.error (.directory (.transport why)))
  | faulty {r : Response} {why : DirectoryError} (h : (send c.request t).1 = .ok r)
    (hr : r.Faults c why) : Sought c t (.error (.directory why))
  | confirmed {r : Response} (h : (send c.request t).1 = .ok r) (hr : r.Confirms c) :
    Sought c t (.ok none)
  | yielded {r : Response} {a : c.Answer} (h : (send c.request t).1 = .ok r)
    (hr : r.Yields c a) : Sought c t (.ok (some a))

theorem sought_lookup (c : Call) (t : ScriptedTransport) :
    Sought c t (found (behaviour c t).1) := by
  rw [behaviour_eq]
  cases h : (send c.request t).1 with
  | error why => exact .unanswered h
  | ok r =>
    obtain ⟨a, ho, hr⟩ | ⟨e, ho, hn, hr⟩ | ⟨e, ho, hr⟩ := r.outcome_cases c
    · simp only [ho]
      exact .yielded h hr
    · simp only [ho, found, hn, if_true]
      exact .confirmed h hr
    · simp only [ho, found, hr.isNotFound, Bool.false_eq_true, if_false]
      exact .faulty h hr

end ScriptedTransport

namespace Ensuring

open ScriptedTransport (send)

def ensure : (e : Ensuring) → Attempt (Ensured e.aim.call.Answer)
  | .application displayName => ensureApplication displayName
  | .principal app tags => ensureServicePrincipal app tags
  | .credential app spec => ensureCredential app spec

def create : Ensuring → Call
  | .application displayName => .createApplication displayName
  | .principal app tags => .createServicePrincipal app.appId tags
  | .credential app spec => .addCredential app.id spec

def foreign? : (e : Ensuring) → e.aim.call.Answer → Option ReconcileError
  | .principal app _, found =>
    if found.appId = app.appId then none
    else some (.appIdMismatch app.displayName app.appId found.appId)
  | .application _, _ | .credential .., _ => none

variable (e : Ensuring) (t : ScriptedTransport)

/-- The request that looks the object up is answered, the answer says that there is nothing, and the
token is live after it. -/
def Confirmed : Prop :=
  ∃ r u, send e.aim.call.request t = (.ok r, u) ∧ r.Confirms e.aim.call ∧ u.cancelled = false

def Found (a : e.aim.call.Answer) : Prop :=
  ∃ r u, send e.aim.call.request t = (.ok r, u) ∧ r.Yields e.aim.call a ∧ e.foreign? a = none

inductive Thwarted : ReconcileError → Prop
  | unanswered {why : TransportError} {u : ScriptedTransport}
    (h : send e.aim.call.request t = (.error why, u)) : Thwarted (.directory (.transport why))
  | faulty {r : Response} {u : ScriptedTransport} {why : DirectoryError}
    (h : send e.aim.call.request t = (.ok r, u)) (hr : r.Faults e.aim.call why) :
    Thwarted (.directory why)
  | cancelled {r : Response} {u : ScriptedTransport} (h : send e.aim.call.request t = (.ok r, u))
    (hr : r.Confirms e.aim.call) (hdead : u.cancelled = true) :
    Thwarted (.directory (.transport .cancelled))
  | foreign {r : Response} {u : ScriptedTransport} {a : e.aim.call.Answer} {why : ReconcileError}
    (h : send e.aim.call.request t = (.ok r, u)) (hr : r.Yields e.aim.call a)
    (hother : e.foreign? a = some why) : Thwarted why

/-- The request that creates the object, made in a state of the transport, is answered with the
object. The answer for a credential holds nothing of use; it is looked up again, and found. -/
def Made : (e : Ensuring) → ScriptedTransport → e.aim.call.Answer → Prop
  | .application displayName, t, a =>
    ∃ r, (send (Call.createApplication displayName).request t).1 = .ok r ∧
      r.Yields (.createApplication displayName) a
  | .principal app tags, t, a =>
    ∃ r, (send (Call.createServicePrincipal app.appId tags).request t).1 = .ok r ∧
      r.Yields (.createServicePrincipal app.appId tags) a
  | .credential app spec, t, a =>
    let added := send (Call.addCredential app.id spec).request t
    let again := Call.getCredential app.id spec.issuer spec.subject
    (∃ r, added.1 = .ok r ∧ r.Yields (.addCredential app.id spec) ()) ∧
      ∃ r, (send again.request added.2).1 = .ok r ∧ r.Yields again a

def taking (a : e.aim.call.Answer) : Attempt (Ensured e.aim.call.Answer) :=
  match e.foreign? a with
  | none => return .existing a
  | some why => throw why

def creating (c : Call) : Attempt (Ensured c.Answer) := do return .created (← perform c)

def making : (e : Ensuring) → Attempt (Ensured e.aim.call.Answer)
  | .application displayName => creating (.createApplication displayName)
  | .principal app tags => creating (.createServicePrincipal app.appId tags)
  | .credential app spec => do
    perform (.addCredential app.id spec)
    creating (.getCredential app.id spec.issuer spec.subject)

theorem ensure_eq : e.ensure = holding e.aim.key (do
    match ← lookup e.aim.call with
    | some a => e.taking a
    | none => e.making) := by
  cases e with
  | application | credential =>
    refine congrArg (holding _) (congrArg (lookup _ >>= ·) (funext fun found => ?_))
    cases found <;> rfl
  | principal app tags =>
    refine congrArg (holding _) (congrArg (lookup _ >>= ·) (funext fun found => ?_))
    cases found with
    | none => rfl
    | some found =>
      dsimp only [taking, foreign?]
      split <;> rfl

/-- Ensuring an object, in whatever directory: the lookup, and what is done after it. -/
theorem run_ensure {σ : Type} (d : Behaviour σ) (s : σ) :
    e.ensure.run.run d s = match found (d e.aim.call s).1 with
      | .error why => (.error why, [], (d e.aim.call s).2)
      | .ok (some a) => (e.taking a).run.run d (d e.aim.call s).2
      | .ok none => e.making.run.run d (d e.aim.call s).2 := by
  rw [ensure_eq, run_holding, run_bind, run_lookup]
  rcases found (d e.aim.call s).1 with why | a | a <;> rfl

theorem verb_lookup : e.aim.call.request.verb = .get := by cases e <;> rfl

theorem verb_create : e.create.request.verb = .post := by cases e <;> rfl

theorem run_creating (c : Call) (u : ScriptedTransport) :
    (creating c).run.run ScriptedTransport.behaviour u =
      (((ScriptedTransport.behaviour c u).1.mapError .directory).map .created, [],
        (send c.request u).2) := by
  unfold creating
  rw [run_map _ _ (run_perform _ u c), ScriptedTransport.behaviour_eq]

theorem creating_eq_ok (c : Call) (u : ScriptedTransport) (a : Ensured c.Answer) :
    ((creating c).run.run ScriptedTransport.behaviour u).1 = .ok a ↔
      ∃ b, a = .created b ∧ ∃ r, (send c.request u).1 = .ok r ∧ r.Yields c b := by
  simp only [run_creating, ← ScriptedTransport.behaviour_eq_ok]
  cases (ScriptedTransport.behaviour c u).1 with
  | error why => exact ⟨nofun, fun ⟨_, _, h⟩ => nomatch h⟩
  | ok b => simp [Except.mapError, Except.map, eq_comm]

theorem creating_dead (c : Call) {u : ScriptedTransport} (h : u.cancelled = true) :
    (creating c).run.run ScriptedTransport.behaviour u =
      (.error (.directory (.transport .cancelled)), [], u) := by
  rw [run_creating, ScriptedTransport.behaviour_eq, ScriptedTransport.send_dead h]
  rfl

theorem making_dead {u : ScriptedTransport} (h : u.cancelled = true) :
    e.making.run.run ScriptedTransport.behaviour u =
      (.error (.directory (.transport .cancelled)), [], u) := by
  cases e with
  | application displayName => exact creating_dead _ h
  | principal app tags => exact creating_dead _ h
  | credential app spec =>
    have hadd := run_perform ScriptedTransport.behaviour u (.addCredential app.id spec)
    rw [ScriptedTransport.behaviour_eq, ScriptedTransport.send_dead h] at hadd
    exact run_bind_error _ _ hadd _

theorem run_adding (owner : ObjectId) (spec : CredentialSpec) (again : Call)
    (u : ScriptedTransport) :
    (do perform (.addCredential owner spec); creating again : Attempt _).run.run
        ScriptedTransport.behaviour u =
      match ScriptedTransport.behaviour (.addCredential owner spec) u with
      | (.error why, v) => (.error (.directory why), [], v)
      | (.ok (), v) => (creating again).run.run ScriptedTransport.behaviour v := by
  rw [run_bind, run_perform]
  rcases ScriptedTransport.behaviour (.addCredential owner spec) u with ⟨why | a, v⟩ <;> rfl

theorem adding_eq_ok (owner : ObjectId) (spec : CredentialSpec) (again : Call)
    (u : ScriptedTransport) (a : Ensured again.Answer) :
    let added := send (Call.addCredential owner spec).request u
    ((do perform (.addCredential owner spec); creating again : Attempt _).run.run
        ScriptedTransport.behaviour u).1 = .ok a ↔
      ∃ b, a = .created b ∧ (∃ r, added.1 = .ok r ∧ r.Yields (.addCredential owner spec) ()) ∧
        ∃ r, (send again.request added.2).1 = .ok r ∧ r.Yields again b := by
  have hadded := ScriptedTransport.behaviour_eq_ok (.addCredential owner spec) u ()
  have hsent := ScriptedTransport.behaviour_snd (.addCredential owner spec) u
  simp only [← hadded, ← hsent, run_adding]
  rcases ScriptedTransport.behaviour (.addCredential owner spec) u with ⟨why | x, v⟩
  · exact ⟨nofun, fun ⟨_, _, h, _⟩ => nomatch h⟩
  · simp only [true_and]
    exact creating_eq_ok again v a

theorem requests_creating (c : Call) {u : ScriptedTransport} (h : u.cancelled = false) :
    ((creating c).run.run ScriptedTransport.behaviour u).2.2.requests =
      u.requests ++ [c.request] := by
  rw [run_creating]
  exact ScriptedTransport.requests_send h c.request

theorem requests_adding (owner : ObjectId) (spec : CredentialSpec) (again : Call)
    {u : ScriptedTransport} (h : u.cancelled = false) :
    ∃ more, ((do perform (.addCredential owner spec); creating again : Attempt _).run.run
        ScriptedTransport.behaviour u).2.2.requests =
          u.requests ++ (Call.addCredential owner spec).request :: more ∧
      more <+: [again.request] := by
  have hadded := ScriptedTransport.requests_send h (Call.addCredential owner spec).request
  rw [← ScriptedTransport.behaviour_snd] at hadded
  rw [run_adding]
  generalize ScriptedTransport.behaviour (.addCredential owner spec) u = added at hadded ⊢
  obtain ⟨why | x, v⟩ := added
  · exact ⟨[], hadded, List.nil_prefix⟩
  · obtain ⟨more, hmore, hprefix⟩ := v.requests_send_prefix again.request
    refine ⟨more, ?_, hprefix⟩
    dsimp only at hadded ⊢
    rw [run_creating, hmore, hadded, List.append_assoc, List.singleton_append]

theorem making_live {u : ScriptedTransport} (h : u.cancelled = false) :
    let (result, _, v) := e.making.run.run ScriptedTransport.behaviour u
    (∃ more, v.requests = u.requests ++ e.create.request :: more ∧
      more <+: [e.aim.call.request]) ∧
    ∀ a, result = .ok a ↔ ∃ b, a = .created b ∧ e.Made u b := by
  cases e with
  | application displayName =>
    exact ⟨⟨[], requests_creating (.createApplication displayName) h, List.nil_prefix⟩,
      creating_eq_ok (.createApplication displayName) u⟩
  | principal app tags =>
    exact ⟨⟨[], requests_creating (.createServicePrincipal app.appId tags) h, List.nil_prefix⟩,
      creating_eq_ok (.createServicePrincipal app.appId tags) u⟩
  | credential app spec =>
    let again := Call.getCredential app.id spec.issuer spec.subject
    exact ⟨requests_adding app.id spec again h, adding_eq_ok app.id spec again u⟩

theorem run_taking {σ : Type} (a : e.aim.call.Answer) (d : Behaviour σ) (s : σ) :
    (e.taking a).run.run d s =
      ((match e.foreign? a with
        | none => .ok (.existing a)
        | some why => .error why), [], s) := by
  unfold taking
  cases e.foreign? a <;> rfl

theorem Confirmed.found {e : Ensuring} {t : ScriptedTransport} (h : e.Confirmed t) :
    found (ScriptedTransport.behaviour e.aim.call t).1 = .ok none := by
  obtain ⟨r, u, hsend, hr, -⟩ := h
  obtain ⟨why, ho, hn⟩ := hr.outcome
  rw [ScriptedTransport.behaviour_eq, hsend]
  simp only [ho, Attempt.found, hn, if_true]

/-- The requests made for an object, and what comes of them. Only a confirmed lookup is followed by
the one request that creates something. Else the object was found, or what went wrong is the error.
It is reported as created exactly if it was made. -/
structure Careful (result : Except ReconcileError (Ensured e.aim.call.Answer))
    (sent : List Request) : Prop where
  order : sent <+: [e.aim.call.request, e.create.request, e.aim.call.request]
  creates : e.Confirmed t → sent.filter (·.verb = .post) = [e.create.request]
  refrains : ¬ e.Confirmed t → sent.filter (·.verb = .post) = [] ∧
    ((∃ a, result = .ok (.existing a) ∧ e.Found t a) ∨
      ∃ why, result = .error why ∧ e.Thwarted t why)
  created : ∀ a, result = .ok (.created a) ↔
    e.Confirmed t ∧ e.Made (send e.aim.call.request t).2 a

variable {e t} {result : Except ReconcileError (Ensured e.aim.call.Answer)} {sent : List Request}

theorem filter_lookups (h : sent <+: [e.aim.call.request]) :
    sent.filter (·.verb = .post) = [] := by
  refine List.filter_eq_nil_iff.mpr fun x hx => ?_
  have hlookup : x = e.aim.call.request := by simpa using h.mem hx
  simp [hlookup, e.verb_lookup]

theorem Careful.of_lookup (h : sent <+: [e.aim.call.request]) (hn : ¬ e.Confirmed t)
    (hresult : (∃ a, result = .ok (.existing a) ∧ e.Found t a) ∨
      ∃ why, result = .error why ∧ e.Thwarted t why) : e.Careful t result sent where
  order := h.trans (List.prefix_append [_] _)
  creates hc := absurd hc hn
  refrains _ := ⟨filter_lookups h, hresult⟩
  created a := by
    refine ⟨fun hcreated => ?_, fun hc => absurd hc.1 hn⟩
    obtain ⟨b, hb, -⟩ | ⟨why, hwhy, -⟩ := hresult
    · cases hb.symm.trans hcreated
    · cases hwhy.symm.trans hcreated

theorem Careful.of_making {more : List Request} (h : more <+: [e.aim.call.request])
    (hc : e.Confirmed t) (hresult : ∀ a, result = .ok a ↔
      ∃ b, a = .created b ∧ e.Made (send e.aim.call.request t).2 b) :
    e.Careful t result (e.aim.call.request :: e.create.request :: more) where
  order := (List.prefix_cons_inj _).mpr ((List.prefix_cons_inj _).mpr h)
  creates _ := by simp [e.verb_lookup, e.verb_create, filter_lookups h]
  refrains hn := absurd hc hn
  created a := by
    rw [hresult]
    simp [hc]

end Ensuring

open Ensuring ScriptedTransport in
/-- Whatever a transport answers, one request creates an object that is ensured, and only if the
lookup before it was answered, the answer says that there is nothing, and the token is live. -/
theorem ensuring_careful (e : Ensuring) (t : ScriptedTransport) :
    let (result, _, t') := e.ensure.run.run ScriptedTransport.behaviour t
    ∃ sent, t'.requests = t.requests ++ sent ∧ e.Careful t result sent := by
  have hrun := e.run_ensure ScriptedTransport.behaviour t
  have hsought := sought_lookup e.aim.call t
  have hfound := fun h : e.Confirmed t => h.found
  rw [behaviour_snd] at hrun
  generalize Attempt.found (ScriptedTransport.behaviour e.aim.call t).1 = looked
    at hrun hsought hfound
  obtain ⟨sent, hsent, hlookup⟩ := t.requests_send_prefix e.aim.call.request
  cases hsought with
  | unanswered h =>
    rw [hrun]
    exact ⟨sent, hsent, .of_lookup hlookup (fun hc => nomatch hfound hc)
      (.inr ⟨_, rfl, .unanswered (Prod.ext h rfl)⟩)⟩
  | faulty h hr =>
    rw [hrun]
    exact ⟨sent, hsent, .of_lookup hlookup (fun hc => nomatch hfound hc)
      (.inr ⟨_, rfl, .faulty (Prod.ext h rfl) hr⟩)⟩
  | @yielded r a h hr =>
    rw [hrun.trans (e.run_taking a _ _)]
    refine ⟨sent, hsent, .of_lookup hlookup (fun hc => nomatch hfound hc) ?_⟩
    cases hforeign : e.foreign? a with
    | none => exact .inl ⟨a, rfl, r, _, Prod.ext h rfl, hr, hforeign⟩
    | some why => exact .inr ⟨why, rfl, .foreign (Prod.ext h rfl) hr hforeign⟩
  -- Only here is anything made, and only if the token is live after the lookup.
  | @confirmed r h hr =>
    cases hdead : (send e.aim.call.request t).2.cancelled with
    | true =>
      rw [hrun.trans (e.making_dead hdead)]
      refine ⟨sent, hsent, .of_lookup hlookup ?_
        (.inr ⟨_, rfl, .cancelled (Prod.ext h rfl) hr hdead⟩)⟩
      rintro ⟨r', u, hsend, -, hlive⟩
      rw [hsend] at hdead
      cases hdead.symm.trans hlive
    | false =>
      have hlive : t.cancelled = false := by
        refine Bool.eq_false_iff.mpr fun hdead => ?_
        rw [send_dead hdead] at h
        cases h
      obtain ⟨⟨more, hmore, hagain⟩, hresult⟩ := e.making_live hdead
      rw [hrun]
      refine ⟨_, ?_, .of_making hagain ⟨r, _, Prod.ext h rfl, hr, hdead⟩ hresult⟩
      rw [hmore, requests_send hlive, List.append_assoc]
      rfl

example : ((ensureApplication "payments").run.run ScriptedTransport.behaviour
    ⟨[⟨true, .ok ⟨200, .object []⟩⟩], false, []⟩).2.2.requests =
      [(Call.getApplication "payments").request] := rfl

end Federation
