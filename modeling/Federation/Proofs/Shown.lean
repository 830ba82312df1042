import Federation.Proofs.Legible
import Federation.Proofs.Lasting
import Federation.Proofs.Whole

namespace Federation

open Text

theorem CredentialSpec.Lawful.isLine_name {c : CredentialSpec} (h : c.Lawful) : IsLine c.name := by
  intro hmem
  have hnot : ¬ isNameChar '\n' = true := by decide
  exact h _ (.character hmem (mt isNameChar_iff.mpr hnot))

structure Naming.Legible (names : Naming) : Prop where
  applicationId : ∀ a n, IsLine (names.applicationId a n).text
  appId : ∀ a n, IsLine (names.appId a n)
  principalId : ∀ a n, IsLine (names.principalId a n).text
  credentialId : ∀ a x n, IsLine (names.credentialId a x n).text

namespace Store

/-- What a store may show of its objects is all lines. Display names count only once they are asked
for. -/
structure Legible (s : Store) : Prop where
  applications : ∀ app ∈ s.applications, IsLine app.id.text ∧ IsLine app.appId
  principals : ∀ p ∈ s.principals, p.Legible
  credentials : ∀ e ∈ s.credentials, e.2.Legible

variable {names : Naming} {s t : Store} {c : Call}

theorem legible_empty : Store.empty.Legible :=
  ⟨List.forall_mem_nil _, List.forall_mem_nil _, List.forall_mem_nil _⟩

theorem Effect.legible {outcome : c.Outcome} (heffect : s.Effect names c outcome t)
    (hn : names.Legible) (h : s.Legible)
    (hc : ∀ owner spec, c = .addCredential owner spec → IsLine spec.name) : t.Legible := by
  cases heffect with
  | failed | looked => exact h
  | createApplication hmade =>
    refine { h with applications := List.forall_mem_append.mpr ⟨h.applications, ?_⟩ }
    rw [hmade]
    exact List.forall_mem_singleton.mpr ⟨hn.applicationId _ _, hn.appId _ _⟩
  | createServicePrincipal happ hmade =>
    refine { h with principals := List.forall_mem_append.mpr ⟨h.principals, ?_⟩ }
    rw [hmade]
    exact List.forall_mem_singleton.mpr ⟨hn.principalId _ _, (h.applications _ happ).2⟩
  | addCredential =>
    refine { h with credentials := List.forall_mem_append.mpr ⟨h.credentials, ?_⟩ }
    exact List.forall_mem_singleton.mpr ⟨hn.credentialId _ _ _, hc _ _ rfl⟩
  | deleteApplication =>
    exact { h with
      applications := fun app ha => h.applications app (List.mem_of_mem_filter ha)
      credentials := fun e he => h.credentials e (List.mem_of_mem_filter he) }
  | deleteServicePrincipal =>
    exact { h with principals := fun p hp => h.principals p (List.mem_of_mem_filter hp) }
  | deleteCredential =>
    exact { h with credentials := fun e he => h.credentials e (List.mem_of_mem_filter he) }

theorem isLine_between {before t after : String} (hbefore : IsLine before) (ht : IsLine t)
    (hafter : IsLine after) : IsLine (before ++ t ++ after) :=
  isLine_append.mpr ⟨isLine_append.mpr ⟨hbefore, ht⟩, hafter⟩

theorem isLine_service {code text : String} (hcode : IsLine code) (htext : IsLine text) :
    IsLine (DirectoryError.service (.basic code text)).message := by
  have hcolon : IsLine ": " := by decide
  exact isLine_append.mpr ⟨by decide, isLine_append.mpr ⟨isLine_append.mpr ⟨hcode, hcolon⟩, htext⟩⟩

theorem isLine_resourceNotFound {id : ObjectId} (h : IsLine id.text) :
    IsLine (resourceNotFound id).message :=
  isLine_service (by decide) (isLine_between (by decide) h (by decide))

theorem isLine_noSuchApplication {appId : String} (h : IsLine appId) :
    IsLine (noSuchApplication appId).message :=
  isLine_service (by decide) (isLine_between (by decide) h (by decide))

theorem isLine_credentialExists {name : String} (h : IsLine name) :
    IsLine (credentialExists name).message :=
  isLine_service (by decide) (isLine_between (by decide) h (by decide))

theorem isLine_notFound (kind : ObjectKind) {name : String} (h : IsLine name) :
    IsLine (DirectoryError.notFound kind name).message := by
  have hkind : IsLine kind.noun := by cases kind <;> decide
  exact isLine_between (isLine_append.mpr ⟨hkind, by decide⟩) h (by decide)

theorem isLine_credentialNotFound {issuer subject : String} (hissuer : IsLine issuer)
    (hsubject : IsLine subject) :
    IsLine (DirectoryError.credentialNotFound issuer subject).message :=
  isLine_between (isLine_between (by decide) hissuer (by decide)) hsubject (by decide)

theorem isLine_behaviour_error {e : DirectoryError} (hc : c.Legible)
    (h : (behaviour names c s).1 = .error e) : IsLine e.message := by
  cases c with
  | createServicePrincipal appId tags =>
    simp only [behaviour, createServicePrincipal] at h
    split at h <;> cases h
    exact isLine_noSuchApplication hc
  | getServicePrincipal displayName =>
    simp only [behaviour, getServicePrincipal] at h
    split at h <;> cases h
    exact isLine_notFound _ hc
  | deleteServicePrincipal id =>
    simp only [behaviour, deleteServicePrincipal] at h
    split at h <;> cases h
    exact isLine_resourceNotFound hc
  | createApplication displayName => cases h
  | getApplication displayName =>
    simp only [behaviour, getApplication] at h
    split at h <;> cases h
    exact isLine_notFound _ hc
  | deleteApplication id =>
    simp only [behaviour, deleteApplication] at h
    split at h <;> cases h
    exact isLine_resourceNotFound hc
  | addCredential owner spec =>
    simp only [behaviour, addCredential] at h
    split at h
    · cases h
      exact isLine_resourceNotFound hc.1
    · split at h <;> cases h
      exact isLine_credentialExists hc.2
  | getCredential owner issuer subject =>
    simp only [behaviour, getCredential] at h
    split at h
    · cases h
      exact isLine_resourceNotFound hc.1
    · split at h <;> cases h
      exact isLine_credentialNotFound hc.2.1 hc.2.2
  | deleteCredential owner id =>
    simp only [behaviour, deleteCredential] at h
    split at h <;> cases h
    exact isLine_resourceNotFound hc.2

/-- What is found is as it is in the store, and what is made has the texts of the call. -/
theorem Legible.answer (h : s.Legible) (hn : names.Legible) {a : c.Answer} (hc : c.Legible)
    (ha : (behaviour names c s).1 = .ok a) : c.LegibleAnswer a := by
  cases c with
  | createServicePrincipal appId tags =>
    simp only [behaviour, createServicePrincipal] at ha
    split at ha <;> cases ha
    exact ⟨hn.principalId _ _, hc⟩
  | getServicePrincipal displayName =>
    simp only [behaviour, getServicePrincipal] at ha
    split at ha <;> cases ha
    rename_i hf
    exact h.principals _ (List.mem_of_find?_eq_some hf)
  | createApplication displayName =>
    cases ha
    exact ⟨hn.applicationId _ _, hn.appId _ _, hc⟩
  | getApplication displayName =>
    simp only [behaviour, getApplication] at ha
    split at ha <;> cases ha
    rename_i hf
    obtain ⟨hid, happId⟩ := h.applications _ (List.mem_of_find?_eq_some hf)
    have hname : a.displayName = displayName := by simpa using List.find?_some hf
    exact ⟨hid, happId, hname ▸ hc⟩
  | getCredential owner issuer subject =>
    simp only [behaviour, getCredential] at ha
    split at ha
    · cases ha
    · split at ha <;> cases ha
      rename_i hf
      have hmem := List.mem_of_mem_filter (List.mem_of_find?_eq_some hf)
      rw [credentialsOf_eq] at hmem
      obtain ⟨e, he, rfl⟩ := List.mem_map.mp hmem
      exact h.credentials e (List.mem_of_mem_filter he)
  | deleteServicePrincipal | deleteApplication | addCredential | deleteCredential => trivial

theorem Legible.deed (h : s.Legible) (hn : names.Legible) (c : Call) (cancelled : Bool)
    (hc : ∀ owner spec, c = .addCredential owner spec → IsLine spec.name) :
    (Deed.made names c cancelled s).after.Legible ∧
      (Deed.made names c cancelled s).reply.Legible := by
  cases cancelled with
  | true =>
    have hcancelled : IsLine (DirectoryError.transport .cancelled).message := by decide
    exact ⟨h, fun _ => hcancelled⟩
  | false =>
    refine ⟨(effect names c s).legible hn h hc, ?_⟩
    have hanswer := @Legible.answer names s c h hn
    have herror := @isLine_behaviour_error names s c
    change Reply.Legible ⟨c, (behaviour names c s).1⟩
    cases hr : (behaviour names c s).1 with
    | ok a => exact fun hlegible => hanswer hlegible hr
    | error e => exact fun hlegible => herror hlegible hr

/-- Whatever is called, but for credentials whose names are no lines, all answers are legible. -/
theorem Legible.follow (h : s.Legible) (hn : names.Legible) {calls : List (Call × Bool)}
    (hcalls : ∀ owner spec cancelled, (.addCredential owner spec, cancelled) ∈ calls →
      IsLine spec.name) :
    ∀ r ∈ (s.follow names calls).1.map Deed.reply, r.Legible := by
  induction calls generalizing s with
  | nil => exact List.forall_mem_nil _
  | cons call rest ih =>
    obtain ⟨c, cancelled⟩ := call
    obtain ⟨hafter, hreply⟩ := h.deed hn c cancelled fun owner spec he =>
      hcalls owner spec cancelled (he ▸ List.mem_cons_self)
    rw [Store.follow, List.map_cons]
    refine List.forall_mem_cons.mpr ⟨hreply, ih hafter fun owner spec b hb => ?_⟩
    exact hcalls owner spec b (List.mem_cons_of_mem _ hb)

end Store

theorem WorkloadIdentity.Lawful.legible {i : WorkloadIdentity} (h : i.Lawful)
    (hname : IsLine i.displayName)
    (hcredentials : ∀ c ∈ i.credentials, IsLine c.issuer ∧ IsLine c.subject) : i.Legible where
  displayName := hname
  credentials c hc := ⟨(h.credentials c hc).isLine_name, hcredentials c hc⟩

theorem Order.Reports.legible {o : Order} {log : List (Nat × Reply)} {summary : Summary}
    {outcomes : List IdentityOutcome} (h : o.Reports log summary outcomes)
    (hidentities : ∀ i ∈ o.identities, i.Legible) (hlog : ∀ r ∈ log.map Prod.snd, r.Legible) :
    ∀ x ∈ outcomes, (∀ c ∈ x.changes, AreLines c.texts) ∧
      ∀ f ∈ x.failure?, IsLine f.displayName ∧ IsLine f.error := by
  intro x hx
  obtain ⟨p, hp, rfl⟩ := List.getElem_of_mem hx
  have hlt : p < o.identities.length := h.length ▸ hp
  have hi := hidentities _ (List.getElem_mem hlt)
  obtain ⟨y, hy, hname, hreplay⟩ := h.each p _ (List.getElem?_eq_getElem hlt)
  rw [List.getElem?_eq_getElem hp, Option.some.injEq] at hy
  subst hy
  have hreplies : ∀ r ∈ repliesTo p log, r.Legible := by
    intro r hr
    obtain ⟨e, he, rfl⟩ := List.mem_map.mp hr
    exact hlog _ (List.mem_map_of_mem (List.mem_of_mem_filter he))
  obtain ⟨hend, hchanges⟩ := (o.attempt_legible hi).replay hreplies hreplay
  refine ⟨hchanges, fun f hf => ?_⟩
  unfold IdentityOutcome.failure? at hf
  cases hresult : outcomes[p].result with
  | ok _ =>
    rw [hresult] at hf
    cases hf
  | error e =>
    rw [hresult] at hf hend
    cases hf
    exact ⟨hname ▸ hi.displayName, hend⟩

/-- The text of a report has its head in one line, and then the entries in order; each change begins
with its sign. There is one line for each entry if and only if no text in them breaks its line. For
a run over a store that is so unless what is declared, or the name of a credential that others add,
has a line end. -/
theorem report_shown_by_line {names : Naming} (hn : names.Legible) {o : Order}
    {locks : LockTable Nat} {summary : Summary} {log : List (Nat × Reply)}
    (hrun : o.ComesTo locks (.ok summary) log) {calls : List (Call × Bool)}
    (hlog : (log.map Prod.snd).Sublist ((Store.empty.follow names calls).1.map Deed.reply))
    (runId : Uuid) (startedAt finishedAt : Instant) :
    let r := summary.report o runId startedAt finishedAt
    let entries :=
      (if r.changes = [] then ["No changes."] else r.changes.map Change.line) ++
        r.errors.map (fun e => "! " ++ e.displayName ++ ": " ++ e.error) ++
        if r.cancelled then ["! cancelled before every identity finished"] else []
    linesOf r.shown = r.headLine :: entries.flatMap pieces ∧
    (∀ c ∈ r.changes,
      let sign := (pieces c.line).head?.bind mark
      (sign = some '=' ↔ c.isMutation = false) ∧
      (sign = some '+' ↔ c.kind ∈ [.applicationCreated, .principalCreated, .credentialAdded]) ∧
      (sign = some '-' ↔ c.kind ∈ [.applicationDeleted, .principalDeleted, .credentialDeleted])) ∧
    (linesOf r.shown = r.headLine :: entries ↔
      (∀ c ∈ r.changes, AreLines c.texts) ∧ ∀ e ∈ r.errors, IsLine e.displayName ∧ IsLine e.error) ∧
    ((∀ i ∈ o.identities, IsLine i.displayName ∧
        ∀ c ∈ i.credentials, IsLine c.issuer ∧ IsLine c.subject) →
      (∀ owner spec cancelled, (.addCredential owner spec, cancelled) ∈ calls →
        IsLine spec.name) →
      linesOf r.shown = r.headLine :: entries) := by
  intro r entries
  have hlines : r.lines = r.headLine :: entries := by
    change r.headLine :: (changeLines r.changes ++ _ ++ _) = _
    rw [changeLines_eq]
    rfl
  have hiff := r.linesOf_shown_eq_iff
  rw [hlines] at hiff
  refine ⟨Report.linesOf_shown hlines, fun c _ => ?_, hiff,
    fun hidentities hcalls => hiff.mpr ?_⟩
  · simp only [c.mark_line, Option.some.injEq]
    exact ⟨c.sign_eq_equals_iff, c.kind.sign_eq_plus_iff, c.kind.sign_eq_minus_iff⟩
  · have hhistory := Store.legible_empty.follow hn hcalls
    cases hrun with
    | @reported t hnone hsteps hdone token =>
      have hlawful := Order.violation?_eq_none_iff.mp hnone
      have hreports := ((Troop.accounted_start o locks).steps hsteps).reports hdone token
      have hlegible := hreports.legible
        (fun i hi => (hlawful i hi).legible (hidentities i hi).1 (hidentities i hi).2)
        fun x hx => hhistory x (hlog.mem hx)
      constructor
      · intro c hc
        obtain ⟨x, hx, hc⟩ := List.mem_flatMap.mp hc
        exact (hlegible x hx).1 c hc
      · intro f hf
        obtain ⟨x, hx, hf⟩ := List.mem_filterMap.mp hf
        exact (hlegible x hx).2 f hf

def Naming.uuids : Naming where
  applicationId _ n := ⟨Uuid.text ⟨4 * n⟩⟩
  appId _ n := Uuid.text ⟨4 * n + 1⟩
  principalId _ n := ⟨Uuid.text ⟨4 * n + 2⟩⟩
  credentialId _ _ n := ⟨Uuid.text ⟨4 * n + 3⟩⟩

theorem Naming.uuids_legible : uuids.Legible where
  applicationId _ _ := Uuid.isLine_text _
  appId _ _ := Uuid.isLine_text _
  principalId _ _ := Uuid.isLine_text _
  credentialId _ _ _ := Uuid.isLine_text _

namespace Shown

def order (displayName : String) : Order :=
  ⟨[⟨displayName, ["tether"], [.basic "gh-main" "https://oidc.example" "repo:acme/payments"]⟩],
    .provision, false, 1⟩

def outcome (displayName : String) : Except ReconcileError Summary :=
  ((order displayName).run (Store.behaviour .uuids) (fun _ => false) .empty).1

def report (displayName : String) (s : Summary) : Report :=
  s.report (order displayName) ⟨7⟩ ⟨1714979289, 0⟩ ⟨1714979290, 0⟩

def summary (displayName : String) : Summary where
  cancelled := false
  changes := [.applicationCreated displayName (some ⟨Uuid.text ⟨0⟩⟩),
    .principalCreated displayName (some ⟨Uuid.text ⟨2⟩⟩),
    .credentialAdded displayName "gh-main" "https://oidc.example" "repo:acme/payments"
      (some ⟨Uuid.text ⟨3⟩⟩)]
  errors := []

def events : List (Event Store) :=
  (order "payments").events (Store.behaviour .uuids) (order "payments").identities .empty

def calls : List (Call × Bool) := events.map fun x => (x.call, false)

theorem outcome_eq : outcome "payments" = .ok (summary "payments") := by decide +kernel

theorem follow_calls :
    (Store.empty.follow .uuids calls).1.map Deed.reply = events.map Event.reply := rfl

theorem calls_legible : (calls.all fun
    | (.addCredential _ spec, _) => decide (IsLine spec.name)
    | _ => true) = true := by
  decide +kernel

end Shown

theorem report_shown_by_line_plain :
    Naming.uuids.Legible ∧ ∃ log,
      (Shown.order "payments").ComesTo .empty (.ok (Shown.summary "payments")) log ∧
      (log.map Prod.snd).Sublist
        ((Store.empty.follow .uuids Shown.calls).1.map Deed.reply) ∧
      linesOf (Shown.report "payments" (Shown.summary "payments")).shown =
        ["provision run 00000000-0000-0000-0000-000000000007",
          "+ application payments (00000000-0000-0000-0000-000000000000)",
          "  + service principal payments (00000000-0000-0000-0000-000000000002)",
          "  + credential payments/gh-main [repo:acme/payments]" ++
            " (00000000-0000-0000-0000-000000000003)"] := by
  obtain ⟨log, hrun, -, hcalls⟩ := (Shown.order "payments").comesTo_run LockTable.sound_empty rfl
    (Store.behaviour .uuids) (fun _ => false) .empty
  change Order.ComesTo _ _ (Shown.outcome "payments") _ at hrun
  rw [Shown.outcome_eq] at hrun
  have hlog : (log.map Prod.snd).Sublist
      ((Store.empty.follow .uuids Shown.calls).1.map Deed.reply) := by
    rw [hcalls (by decide +kernel), Shown.follow_calls]
    exact .refl _
  obtain ⟨-, -, -, hlines⟩ := report_shown_by_line Naming.uuids_legible hrun hlog ⟨7⟩
    ⟨1714979289, 0⟩ ⟨1714979290, 0⟩
  refine ⟨Naming.uuids_legible, log, hrun, hlog, (hlines (by decide) ?_).trans (by decide +kernel)⟩
  intro owner spec cancelled hmem
  exact of_decide_eq_true (List.all_eq_true.mp Shown.calls_legible _ hmem)

/-- An identity whose display name ends a line passes the checks, and its application, service
principal and credential are reported as if other applications had been deleted as well. -/
theorem report_entry_forged :
    let displayName := "payments\n- application billing (app-9)"
    let r := Shown.report displayName (Shown.summary displayName)
    (Shown.order displayName).violation? = none ∧
    Shown.outcome displayName = .ok (Shown.summary displayName) ∧
    r.changes.map Change.kind = [.applicationCreated, .principalCreated, .credentialAdded] ∧
    r.errors = [] ∧ r.cancelled = false ∧ (linesOf r.shown).length = 7 ∧
    ∃ line ∈ linesOf r.shown, mark line = some '-' := by
  intro displayName r
  have hlines : linesOf r.shown = r.headLine :: (r.changes.map Change.line).flatMap pieces :=
    Report.linesOf_shown rfl
  refine ⟨by decide +kernel, by decide +kernel, rfl, rfl, rfl, ?_, ?_⟩
  · rw [hlines, List.length_cons, List.length_flatMap, List.map_map]
    simp only [Function.comp_def, length_pieces, Change.breaks_line]
    decide +kernel
  · let line := "- application billing (app-9) (00000000-0000-0000-0000-000000000000)"
    have hmem : line ∈ (r.changes.map Change.line).flatMap pieces :=
      List.mem_flatMap.mpr ⟨_, List.mem_cons_self, by decide +kernel⟩
    exact ⟨line, hlines ▸ List.mem_cons_of_mem _ hmem, by decide +kernel⟩

end Federation
