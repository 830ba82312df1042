import Federation.Directory.Guard
import Federation.Proofs.Operation

namespace Federation

/-- What is sent of a request: the filter goes as a text. -/
structure Sent where
  verb : Verb
  path : String
  filter : Option String
  body : Option Json
  deriving DecidableEq

def Request.sent (q : Request) : Sent := ⟨q.verb, q.path, q.filter.map Filter.text, q.body⟩

namespace Operation

/-- The call that asks for an operation. The issuer matters only where a credential is looked up. -/
def call (issuer : String) : Operation → Call
  | .createApplication displayName => .createApplication displayName
  | .listApplications displayName => .getApplication displayName
  | .deleteApplication id => .deleteApplication id
  | .createPrincipal appId tags => .createServicePrincipal appId tags
  | .listPrincipals displayName => .getServicePrincipal displayName
  | .deletePrincipal id => .deleteServicePrincipal id
  | .addCredential owner spec => .addCredential owner spec
  | .listCredentials owner subject => .getCredential owner issuer subject
  | .deleteCredential owner id => .deleteCredential owner id

theorem ofRequest_congr {q q' : Request} (h : q.sent = q'.sent) : ofRequest q = ofRequest q' := by
  obtain ⟨hverb, hpath, hfilter, hbody⟩ := Sent.mk.inj h
  unfold ofRequest
  rw [hverb, hpath, hfilter, hbody]

end Operation

namespace Call

variable {c c' : Call}

theorem call_operation (c : Call) : ∃ issuer, c = c.operation.call issuer := by
  cases c with
  | getCredential owner issuer subject => exact ⟨issuer, rfl⟩
  | _ => exact ⟨"", rfl⟩

theorem eq_of_operation (h : c.operation = c'.operation) :
    c = c' ∨ ∃ owner issuer issuer' subject,
      c = .getCredential owner issuer subject ∧ c' = .getCredential owner issuer' subject := by
  obtain ⟨issuer, hc⟩ := c.call_operation
  obtain ⟨issuer', hc'⟩ := c'.call_operation
  rw [← h] at hc'
  cases ho : c.operation with
  | listCredentials owner subject =>
    rw [ho] at hc hc'
    exact .inr ⟨owner, issuer, issuer', subject, hc, hc'⟩
  | _ =>
    rw [ho] at hc hc'
    exact .inl (hc.trans hc'.symm)

theorem operation_of_sent (hc : ∀ id ∈ c.resource.ids, id.OneSegment)
    (hc' : ∀ id ∈ c'.resource.ids, id.OneSegment) (h : c.request.sent = c'.request.sent) :
    c.operation = c'.operation := by
  have hread : Operation.ofRequest c.request = Operation.ofRequest c'.request :=
    Operation.ofRequest_congr h
  rw [Operation.ofRequest_request hc, Operation.ofRequest_request hc'] at hread
  exact Option.some.inj hread

end Call

theorem Guarded.requests_behaviour {σ : Type} (pass : Request → σ → Passage × σ) {g : Guarded σ}
    (hlive : g.cancelled = false) (c : Call) :
    (Guarded.behaviour pass c g).2.requests = g.requests ++ [c.request] := by
  unfold Guarded.behaviour Gateway.behaviour Guarded.send
  rw [if_neg (by simp [hlive])]
  rcases pass c.request g.outside with ⟨⟨answer | why, cancels⟩ | _, outside⟩ <;> rfl

/-- With a live token each call sends one request, whatever becomes of it; and what is sent is the
same only for the same call, or where a credential is looked up for another issuer. -/
theorem one_faithful_request :
    (∀ {σ : Type} (pass : Request → σ → Passage × σ) (g : Guarded σ) (c : Call),
      g.cancelled = false → (Guarded.behaviour pass c g).2.requests = g.requests ++ [c.request]) ∧
    ∀ c c' : Call, (∀ id ∈ c.resource.ids, id.OneSegment) →
      (∀ id ∈ c'.resource.ids, id.OneSegment) →
      (c.request.sent = c'.request.sent ↔ c = c' ∨ ∃ owner issuer issuer' subject,
        c = .getCredential owner issuer subject ∧ c' = .getCredential owner issuer' subject) := by
  refine ⟨fun pass g c hlive => Guarded.requests_behaviour pass hlive c, fun c c' hc hc' => ?_⟩
  constructor
  · exact fun h => Call.eq_of_operation (Call.operation_of_sent hc hc' h)
  · rintro (rfl | ⟨owner, issuer, issuer', subject, rfl, rfl⟩)
    · rfl
    · rfl

/-- An object id with a slash can make two calls one. -/
example : (Call.deleteCredential ⟨"a"⟩ ⟨"b"⟩).request.sent =
    (Call.deleteApplication ⟨"a/federatedIdentityCredentials/b"⟩).request.sent := by decide

namespace Brien

def lookup : Call := .getCredential ⟨""⟩ "https://oidc.example" "repo:o'brien/api"

def other : Call := .getCredential ⟨""⟩ "https://other.example" "repo:o'brien/api"

def twice : Call := .getCredential ⟨""⟩ "https://oidc.example" "repo:o''brien/api"

def pass : Request → Unit → Passage × Unit := fun _ _ => (.unanswered, ())

end Brien

open Brien in
/-- Quotes in a subject are told apart, and issuers are not. -/
theorem one_faithful_request_quoted :
    (∀ c ∈ [lookup, other, twice], ∀ id ∈ c.resource.ids, id.OneSegment) ∧
    (Guarded.behaviour pass lookup ⟨(), false, []⟩).2.requests = [lookup.request] ∧
    lookup.request.sent = other.request.sent ∧ lookup.request.sent ≠ twice.request.sent := by
  have hids : ∀ c ∈ [lookup, other, twice], ∀ id ∈ c.resource.ids, id.OneSegment := by decide
  obtain ⟨hone, hfaithful⟩ := one_faithful_request
  have hother := hfaithful lookup other (hids _ (by simp)) (hids _ (by simp))
  have htwice := hfaithful lookup twice (hids _ (by simp)) (hids _ (by simp))
  refine ⟨hids, hone pass ⟨(), false, []⟩ lookup rfl, ?_, fun hsame => ?_⟩
  · exact hother.mpr (.inr ⟨_, _, _, _, rfl, rfl⟩)
  · obtain heq | ⟨owner, issuer, issuer', subject, heq, heq'⟩ := htwice.mp hsame
    · exact absurd heq (by decide)
    · have hsubject := (Call.getCredential.inj heq).2.2.trans (Call.getCredential.inj heq').2.2.symm
      exact absurd hsubject (by decide)

end Federation
