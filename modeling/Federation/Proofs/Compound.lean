import Federation.Proofs.Service

namespace Federation

namespace Credential

def Trusts (c : Credential) (issuer subject : String) : Prop :=
  c.issuer = issuer ∧ c.subject = subject

instance (c : Credential) (issuer subject : String) : Decidable (c.Trusts issuer subject) :=
  inferInstanceAs (Decidable (_ ∧ _))

/-- The credential trusts what is asked for, and none before it does. -/
def IsFirst (issuer subject : String) (items : List Credential) (c : Credential) : Prop :=
  ∃ before after, items = before ++ c :: after ∧ c.Trusts issuer subject ∧
    ∀ b ∈ before, ¬ b.Trusts issuer subject

variable {issuer subject : String} {items : List Credential}

theorem decide_trusts (c : Credential) (issuer subject : String) :
    decide (c.Trusts issuer subject) =
      (decide (c.issuer = issuer) && decide (c.subject = subject)) :=
  Bool.decide_and _ _

theorem answers_eq (c : Credential) (issuer subject : String) :
    c.answers issuer subject = decide (c.Trusts issuer subject) := by
  rw [decide_trusts, answers, Bool.beq_eq_decide_eq, Bool.beq_eq_decide_eq]

theorem isFirst_iff {c : Credential} :
    IsFirst issuer subject items c ↔
      (items.filter (·.Trusts issuer subject)).head? = some c := by
  rw [List.head?_filter, List.find?_eq_some_iff_append]
  constructor
  · rintro ⟨before, after, hitems, hc, hbefore⟩
    exact ⟨decide_eq_true hc, before, after, hitems, fun b hb => by simpa using hbefore b hb⟩
  · rintro ⟨hc, before, after, hitems, hbefore⟩
    exact ⟨before, after, hitems, of_decide_eq_true hc, fun b hb => by simpa using hbefore b hb⟩

end Credential

namespace Response

/-- The answer is a success without an error, and these are the credentials it carries. -/
structure Lists (r : Response) (items : List Credential) : Prop where
  success : r.isSuccess = true
  clean : r.Clean
  body : ∃ fs, r.body = .object fs ∧ Json.Collects Credential.ofJson fs items

variable {α : Type} {e : DirectoryError}

theorem firstOr_eq_ok {xs : List α} {a : α} : firstOr e xs = .ok a ↔ xs.head? = some a := by
  cases xs <;> simp [firstOr]

theorem firstOr_eq_error {xs : List α} : firstOr e xs = .error e ↔ xs = [] := by
  cases xs <;> simp [firstOr]

theorem Lists.outcome {r : Response} {items : List Credential} (h : r.Lists items)
    (owner : ObjectId) (issuer subject : String) :
    r.outcome (.getCredential owner issuer subject) =
      firstOr (.credentialNotFound issuer subject) (items.filter (·.Trusts issuer subject)) := by
  obtain ⟨fs, hb, hitems⟩ := h.body
  have hfirst := firstOf_items hb (fields_of_success h.clean h.success hb) hitems
    (·.answers issuer subject) (.credentialNotFound issuer subject)
  simp only [Credential.answers_eq] at hfirst
  rw [← hfirst]
  simp only [Response.outcome, firstOf, Credential.answers_eq]

end Response

theorem Store.getCredential_eq_firstOr {s : Store} {owner : ObjectId}
    (h : s.hasApplication owner = true) (issuer subject : String) :
    s.getCredential owner issuer subject =
      Response.firstOr (.credentialNotFound issuer subject)
        ((s.credentialsOf owner).filter (·.Trusts issuer subject)) := by
  have hstaged : ((s.credentialsOf owner).filter (·.subject = subject)).find?
      (·.issuer = issuer) = ((s.credentialsOf owner).filter (·.Trusts issuer subject)).head? := by
    rw [List.find?_filter, List.head?_filter]
    congr 1
    funext c
    simp [Credential.decide_trusts, Bool.and_comm]
  unfold getCredential
  rw [h, hstaged]
  cases (s.credentialsOf owner).filter (·.Trusts issuer subject) with
  | nil => rfl
  | cons c rest => rfl

theorem Service.lists_listed {items : List Credential} (h : ∀ c ∈ items, c.additional = []) :
    (listed (items.map (·.toJson))).Lists items := by
  obtain ⟨fs, hb, hn, hitems⟩ := @collects_listed _ _ _ items fun c hc =>
    Credential.ofJson_toJson (h c hc)
  exact ⟨rfl, clean_respond hb hn, fs, hb, hitems⟩

/-- Whatever credentials a clean success carries, the gateway returns the first of them that has
both the issuer and the subject, and says that there is none just when none has. The store says the
same of an application that holds these credentials. -/
theorem Gateway.compound_lookup {σ : Type} {send : Transport σ} {owner : ObjectId}
    {issuer subject : String} {s s' : σ} {r : Response} {items : List Credential}
    (hr : send (Call.getCredential owner issuer subject).request s = (.ok r, s'))
    (h : r.Lists items) :
    let found := (Gateway.behaviour send (.getCredential owner issuer subject) s).1
    (∀ c, found = .ok c ↔ Credential.IsFirst issuer subject items c) ∧
    (found = .error (.credentialNotFound issuer subject) ↔
      ∀ c ∈ items, ¬ c.Trusts issuer subject) ∧
    (∀ (τ : Type) (send' : Transport τ) (owner' : ObjectId) (t t' : τ) (r' : Response)
      (items' : List Credential),
      send' (Call.getCredential owner' issuer subject).request t = (.ok r', t') →
      r'.Lists items' →
      items'.filter (·.Trusts issuer subject) = items.filter (·.Trusts issuer subject) →
      (Gateway.behaviour send' (.getCredential owner' issuer subject) t).1 = found) ∧
    ∀ (names : Naming) (store : Store) (holder : ObjectId),
      store.hasApplication holder = true → store.credentialsOf holder = items →
      (Store.behaviour names (.getCredential holder issuer subject) store).1 = found := by
  intro found
  have hfound : found = Response.firstOr (.credentialNotFound issuer subject)
      (items.filter (·.Trusts issuer subject)) := by
    simp only [found, Gateway.behaviour, hr]
    exact h.outcome owner issuer subject
  refine ⟨fun c => ?_, ?_, fun τ send' owner' t t' r' items' hr' h' hsame => ?_,
    fun names store holder happ hitems => ?_⟩
  · rw [hfound, Response.firstOr_eq_ok, Credential.isFirst_iff]
  · rw [hfound, Response.firstOr_eq_error, List.filter_eq_nil_iff]
    simp only [decide_eq_true_eq]
  · rw [hfound, ← hsame, Gateway.behaviour, hr']
    exact h'.outcome owner' issuer subject
  · rw [hfound, ← hitems]
    exact Store.getCredential_eq_firstOr happ issuer subject

namespace Crossed

def credential (id name issuer subject : String) : Credential :=
  ⟨⟨id⟩, name, issuer, subject, ["api://AzureADTokenExchange"], none, []⟩

def items : List Credential :=
  [credential "1" "stray" "https://oidc.example" "repo:acme/orders",
    credential "2" "alien" "https://evil.example" "repo:acme/payments",
    credential "3" "first" "https://oidc.example" "repo:acme/payments",
    credential "4" "again" "https://oidc.example" "repo:acme/payments"]

end Crossed

theorem Gateway.compound_lookup_crossed :
    let send : Transport Unit := fun _ s =>
      (.ok (Service.listed (Crossed.items.map (·.toJson))), s)
    let c := Crossed.credential "3" "first" "https://oidc.example" "repo:acme/payments"
    send (Call.getCredential ⟨"app"⟩ c.issuer c.subject).request () =
      (.ok (Service.listed (Crossed.items.map (·.toJson))), ()) ∧
    (Service.listed (Crossed.items.map (·.toJson))).Lists Crossed.items ∧
    (Gateway.behaviour send (.getCredential ⟨"app"⟩ c.issuer c.subject) ()).1 = .ok c := by
  intro send c
  have hlists : (Service.listed (Crossed.items.map (·.toJson))).Lists Crossed.items :=
    Service.lists_listed (by decide)
  have hsent : send (Call.getCredential ⟨"app"⟩ c.issuer c.subject).request () =
      (.ok (Service.listed (Crossed.items.map (·.toJson))), ()) := rfl
  refine ⟨hsent, hlists, ?_⟩
  exact ((compound_lookup hsent hlists).1 c).mpr
    ⟨Crossed.items.take 2, Crossed.items.drop 3, rfl, by decide, by decide⟩

end Federation
