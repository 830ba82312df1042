import Federation.Proofs.Bounds
import Federation.Directory.Token

namespace Federation

variable {σ : Type} {c : ClientSecret} {w : Surroundings σ} {now : Nat}

namespace Http.Answer

/-- The answer gives this token, whatever its status is. -/
def Grants (a : Answer) (token : String) : Prop :=
  ∃ v, Json.ofBytes a.body = .ok v ∧ v.field "access_token" = .string token

/-- The lifetime in an answer, a number of 64 bits. Anything else in its place, also nothing, is
taken for an hour. -/
def LivesFor (a : Answer) (lifetime : Nat) : Prop :=
  ∃ v, Json.ofBytes a.body = .ok v ∧
    ((v.field "expires_in" = .integer lifetime ∧ lifetime < 2 ^ 64) ∨
      ((¬∃ n : Nat, v.field "expires_in" = .integer n ∧ n < 2 ^ 64) ∧ lifetime = 3600))

end Http.Answer

structure Contact where
  message : Http.Message
  answer : Except (List String) Http.Answer
  deriving DecidableEq

def Surroundings.watched (w : Surroundings σ) : Surroundings (σ × List Contact) where
  exchange m s := ((w.exchange m s.1).1, (w.exchange m s.1).2, s.2 ++ [⟨m, (w.exchange m s.1).1⟩])
  runTool args s := ((w.runTool args s.1).1, (w.runTool args s.1).2, s.2)
  clock s := w.clock s.1

structure TokenCall where
  contacts : List Contact
  result : Except TransportError String
  onHand : Option CachedToken
  deriving DecidableEq

namespace TokenCall

/-- The call got a token that lives longer than the last minute, in which it is not used. -/
def Lasting (k : TokenCall) : Prop :=
  (∃ token, k.result = .ok token) ∧
    ∃ m a lifetime, k.contacts = [⟨m, .ok a⟩] ∧ a.LivesFor lifetime ∧ 60 < lifetime

def lastToken (ks : List TokenCall) : Option String :=
  (ks.filterMap fun k => k.result.toOption).getLast?

def held (ks : List TokenCall) : Option CachedToken := ks.getLast?.bind TokenCall.onHand

end TokenCall

namespace ClientSecret

def call (c : ClientSecret) (w : Surroundings σ) (onHand : Option CachedToken) (s : σ) :
    TokenCall × σ :=
  let (r, onHand, s, contacts) := c.token w.watched onHand (s, [])
  (⟨contacts, r.mapError fun why => .token why.message, onHand⟩, s)

def calls (c : ClientSecret) (w : Surroundings σ) : Nat → Option CachedToken → σ → List TokenCall
  | 0, _, _ => []
  | n + 1, onHand, s =>
    (c.call w onHand s).1 :: c.calls w n (c.call w onHand s).1.onHand (c.call w onHand s).2

end ClientSecret

open TokenCall

namespace Http.Answer

variable {a : Answer} {token : String} {lifetime : Nat}

theorem LivesFor.unique {m n : Nat} (hm : a.LivesFor m) (hn : a.LivesFor n) : m = n := by
  obtain ⟨v, hv, hm⟩ := hm
  obtain ⟨v', hv', hn⟩ := hn
  obtain rfl : v = v' := by
    rw [hv] at hv'
    cases hv'
    rfl
  obtain ⟨h, hlt⟩ | ⟨hno, rfl⟩ := hm
  · obtain ⟨h', -⟩ | ⟨hno, -⟩ := hn
    · rw [h] at h'
      cases h'
      rfl
    · exact absurd ⟨m, h, hlt⟩ hno
  · obtain ⟨h, hlt⟩ | ⟨-, rfl⟩ := hn
    · exact absurd ⟨n, h, hlt⟩ hno
    · rfl

theorem livesFor_lifetime {v : Json} (h : Json.ofBytes a.body = .ok v) :
    a.LivesFor (ClientSecret.lifetime v) := by
  refine ⟨v, h, ?_⟩
  have hbounded := (Json.bounded_of_ofBytes h).field "expires_in"
  unfold ClientSecret.lifetime
  cases hget : (v.field "expires_in").asNat? with
  | some n => exact .inl ⟨Json.asNat?_eq_some_iff.mp hget, hbounded.asNat?_lt hget⟩
  | none =>
    refine .inr ⟨?_, rfl⟩
    rintro ⟨n, h, -⟩
    rw [Json.asNat?_eq_some_iff.mpr h] at hget
    cases hget

theorem readAnswer_of_grants (h : a.Grants token) (hlife : a.LivesFor lifetime) :
    ClientSecret.readAnswer now a = .ok ⟨token, now + (lifetime - 60)⟩ := by
  obtain ⟨v, hv, ht⟩ := h
  have hread : ClientSecret.readAnswer now a =
      .ok ⟨token, now + (ClientSecret.lifetime v - ClientSecret.margin)⟩ := by
    simp only [ClientSecret.readAnswer, hv, ht, Json.asString?]
  rw [hread, hlife.unique (livesFor_lifetime hv)]
  rfl

theorem readAnswer_of_not_grants (h : ∀ token, ¬ a.Grants token) :
    ∃ why, ClientSecret.readAnswer now a = .error why := by
  unfold ClientSecret.readAnswer
  split
  · exact ⟨_, rfl⟩
  · rename_i v hv
    split
    · rename_i token ht
      refine absurd ⟨v, hv, ?_⟩ (h token)
      revert ht
      cases v.field "access_token" <;> simp [Json.asString?]
    · exact ⟨_, rfl⟩

end Http.Answer

namespace ClientSecret

variable {onHand before : Option CachedToken} {s : σ}

def Stale (now : Nat) (onHand : Option CachedToken) : Prop := ∀ t ∈ onHand, t.expiry ≤ now

/-- How a call can go, by the token on hand before it. -/
inductive Course (c : ClientSecret) (now : Nat) (before : Option CachedToken) : TokenCall → Prop
  | served {t : CachedToken} (h : before = some t) (hgood : now < t.expiry) :
    Course c now before ⟨[], .ok t.token, before⟩
  | unsent {why : Http.FetchFault} (hstale : Stale now before) (h : c.message = .error why) :
    Course c now before ⟨[], .error (.token (TokenFault.unanswered why).message), before⟩
  | unanswered {m : Http.Message} {reasons : List String} (reason : String)
    (hstale : Stale now before) (h : c.message = .ok m) :
    Course c now before ⟨[⟨m, .error reasons⟩], .error (.token reason), before⟩
  | denied {m : Http.Message} {a : Http.Answer} (reason : String) (hstale : Stale now before)
    (h : c.message = .ok m) (hno : ∀ token, ¬ a.Grants token) :
    Course c now before ⟨[⟨m, .ok a⟩], .error (.token reason), before⟩
  | granted {m : Http.Message} {a : Http.Answer} {token : String} {lifetime : Nat}
    (hstale : Stale now before) (h : c.message = .ok m) (ha : a.Grants token)
    (hlife : a.LivesFor lifetime) :
    Course c now before ⟨[⟨m, .ok a⟩], .ok token, some ⟨token, now + (lifetime - 60)⟩⟩

theorem filter_eq_none_iff_stale :
    (onHand.filter fun t => now < t.expiry) = none ↔ Stale now onHand := by
  simp [Stale, Option.filter_eq_none_iff]

theorem token_of_granted (hclock : ∀ s, w.clock s = now) (h : Stale now onHand) {t : CachedToken}
    {s' : σ} (hr : c.request w s = (.ok t, s')) :
    c.token w onHand s = (.ok t.token, some t, s') := by
  simp only [token, hclock, filter_eq_none_iff_stale.mpr h, hr]

theorem token_of_failed (hclock : ∀ s, w.clock s = now) (h : Stale now onHand) {why : TokenFault}
    {s' : σ} (hr : c.request w s = (.error why, s')) :
    c.token w onHand s = (.error why, onHand, s') := by
  simp only [token, hclock, filter_eq_none_iff_stale.mpr h, hr]

theorem request_unsent {why : Http.FetchFault} (hm : c.message = .error why) :
    c.request w s = (.error (.unanswered why), s) := by
  simp only [request, hm]

theorem request_unanswered {m : Http.Message} (hm : c.message = .ok m) {reasons : List String}
    (hx : (w.exchange m s).1 = .error reasons) :
    c.request w s = (.error (.unanswered (.unanswered m.url.text reasons)), (w.exchange m s).2) := by
  simp only [request, hm, Http.fetch, hx, Except.mapError]

theorem request_answered (hclock : ∀ s, w.clock s = now) {m : Http.Message} (hm : c.message = .ok m)
    {a : Http.Answer} (hx : (w.exchange m s).1 = .ok a) :
    c.request w s = (readAnswer now a, (w.exchange m s).2) := by
  simp only [request, hm, Http.fetch, hx, Except.mapError, hclock]

theorem token_watched (c : ClientSecret) (w : Surroundings σ) (onHand : Option CachedToken) (s : σ)
    (log : List Contact) :
    ((c.token w.watched onHand (s, log)).1, (c.token w.watched onHand (s, log)).2.1,
      (c.token w.watched onHand (s, log)).2.2.1) = c.token w onHand s := by
  have hclock : w.watched.clock (s, log) = w.clock s := rfl
  unfold token
  rw [hclock]
  cases onHand.filter fun t => w.clock s < t.expiry with
  | some t => rfl
  | none =>
    unfold request
    cases c.message with
    | error why => rfl
    | ok m =>
      dsimp only [Http.fetch, Surroundings.watched]
      cases (w.exchange m s).1 with
      | error reasons => rfl
      | ok a =>
        dsimp only [Except.mapError]
        cases readAnswer (w.clock (w.exchange m s).2) a <;> rfl

theorem call_course (c : ClientSecret) (hclock : ∀ s, w.clock s = now)
    (onHand : Option CachedToken) (s : σ) : c.Course now onHand (c.call w onHand s).1 := by
  have hwatched : ∀ s, w.watched.clock s = now := fun s => hclock s.1
  by_cases hstale : Stale now onHand
  · cases hm : c.message with
    | error why =>
      rw [call, token_of_failed hwatched hstale (request_unsent hm)]
      exact .unsent hstale hm
    | ok m =>
      -- The contact that is noted down is the answer that the request got.
      have hnoted : (w.watched.exchange m (s, [])).2 =
          ((w.exchange m s).2, [⟨m, (w.exchange m s).1⟩]) := rfl
      cases hx : (w.exchange m s).1 with
      | error reasons =>
        have hrequest : c.request w.watched (s, []) =
            (.error (.unanswered (.unanswered m.url.text reasons)), (w.exchange m s).2,
              [⟨m, .error reasons⟩]) := by
          rw [request_unanswered (w := w.watched) (s := (s, [])) hm hx, hnoted, hx]
        rw [call, token_of_failed hwatched hstale hrequest]
        exact .unanswered _ hstale hm
      | ok a =>
        have hrequest : c.request w.watched (s, []) =
            (readAnswer now a, (w.exchange m s).2, [⟨m, .ok a⟩]) := by
          rw [request_answered (w := w.watched) (s := (s, [])) hwatched hm hx, hnoted, hx]
        by_cases ha : ∃ token, a.Grants token
        · obtain ⟨token, ha⟩ := ha
          obtain ⟨v, hv, -⟩ := id ha
          have hlife := Http.Answer.livesFor_lifetime hv
          rw [Http.Answer.readAnswer_of_grants ha hlife] at hrequest
          rw [call, token_of_granted hwatched hstale hrequest]
          exact .granted hstale hm ha hlife
        · obtain ⟨why, hwhy⟩ := Http.Answer.readAnswer_of_not_grants (not_exists.mp ha)
          rw [hwhy] at hrequest
          rw [call, token_of_failed hwatched hstale hrequest]
          exact .denied _ hstale hm (not_exists.mp ha)
  · obtain ⟨t, ht⟩ : ∃ t, (onHand.filter fun t => now < t.expiry) = some t :=
      Option.ne_none_iff_exists'.mp fun h => hstale (filter_eq_none_iff_stale.mp h)
    have htoken : c.token w.watched onHand (s, []) = (.ok t.token, onHand, s, []) := by
      simp only [token, hwatched, ht]
    rw [call, htoken]
    obtain ⟨ht, hgood⟩ := Option.filter_eq_some_iff.mp ht
    exact .served ht (by simpa using hgood)

/-- What is on hand after some calls: the token of the last success, good if and only if one of
them got a lasting token. -/
structure Ready (c : ClientSecret) (now : Nat) (earlier : List TokenCall)
    (onHand : Option CachedToken) : Prop where
  sendable : ∀ t ∈ onHand, ∃ m, c.message = .ok m
  held : onHand = held earlier
  last : onHand.map (·.token) = lastToken earlier
  lasting : (∃ x ∈ earlier, x.Lasting) ↔ ¬ Stale now onHand

theorem ready_nil : c.Ready now [] none := ⟨by simp, rfl, rfl, by simp [Stale]⟩

theorem lastToken_concat_ok {earlier : List TokenCall} {k : TokenCall} {t : String}
    (h : k.result = .ok t) : lastToken (earlier ++ [k]) = some t := by
  simp [lastToken, h, Except.toOption]

theorem lastToken_concat_error {earlier : List TokenCall} {k : TokenCall} {e : TransportError}
    (h : k.result = .error e) : lastToken (earlier ++ [k]) = lastToken earlier := by
  simp [lastToken, h, Except.toOption]

theorem lasting_granted_iff {m : Http.Message} {a : Http.Answer} {t : String} {lifetime : Nat}
    (ha : a.LivesFor lifetime) (after : Option CachedToken) :
    Lasting ⟨[⟨m, .ok a⟩], .ok t, after⟩ ↔ 60 < lifetime := by
  constructor
  · rintro ⟨-, _, _, lifetime', h, ha', hlong⟩
    cases h
    rwa [ha.unique ha']
  · intro hlong
    exact ⟨⟨t, rfl⟩, m, a, lifetime, rfl, ha, hlong⟩

theorem not_lasting_of_error {k : TokenCall} {e : TransportError} (h : k.result = .error e) :
    ¬ k.Lasting := by
  rintro ⟨⟨t, ht⟩, -⟩
  rw [h] at ht
  cases ht

theorem stale_some_iff {t : CachedToken} : Stale now (some t) ↔ t.expiry ≤ now := by
  simp [Stale]

theorem Ready.concat_error {earlier : List TokenCall} {k : TokenCall} {e : TransportError}
    (h : c.Ready now earlier before) (hk : k.result = .error e) (hafter : k.onHand = before) :
    c.Ready now (earlier ++ [k]) k.onHand where
  sendable := hafter ▸ h.sendable
  held := by simp [TokenCall.held]
  last := by rw [hafter, h.last, lastToken_concat_error hk]
  lasting := by simp [hafter, or_and_right, exists_or, not_lasting_of_error hk, h.lasting]

theorem Course.ready {earlier : List TokenCall} {k : TokenCall} (hk : c.Course now before k)
    (h : c.Ready now earlier before) : c.Ready now (earlier ++ [k]) k.onHand := by
  cases hk with
  | @served t hbefore hgood =>
    subst hbefore
    refine ⟨h.sendable, by simp [TokenCall.held], (lastToken_concat_ok rfl).symm, ?_⟩
    have hnew : ¬ Lasting ⟨[], .ok t.token, some t⟩ := by
      rintro ⟨-, _, _, _, h, -⟩
      cases h
    simp [or_and_right, exists_or, hnew, h.lasting]
  | unsent => exact h.concat_error rfl rfl
  | unanswered => exact h.concat_error rfl rfl
  | denied => exact h.concat_error rfl rfl
  | @granted m a t lifetime hstale hm _ hlife =>
    refine ⟨fun _ _ => ⟨m, hm⟩, by simp [TokenCall.held], (lastToken_concat_ok rfl).symm, ?_⟩
    have hnone : ¬∃ x ∈ earlier, x.Lasting := fun hx => h.lasting.mp hx hstale
    simp only [List.mem_append, List.mem_singleton, or_and_right, exists_or, hnone, false_or,
      exists_eq_left, lasting_granted_iff hlife, stale_some_iff]
    omega

structure Renews (c : ClientSecret) (earlier : List TokenCall) (k : TokenCall) : Prop where
  unsent : ∀ why, c.message = .error why →
    k.contacts = [] ∧ ∃ reason, k.result = .error (.token reason)
  asks_iff : ∀ m, c.message = .ok m → (k.contacts ≠ [] ↔ ¬∃ x ∈ earlier, x.Lasting)
  served : ∀ m, c.message = .ok m → k.contacts = [] →
    ∃ token, lastToken earlier = some token ∧ k.result = .ok token
  asked : k.contacts ≠ [] → ∃ m answer, c.message = .ok m ∧ k.contacts = [⟨m, answer⟩] ∧
    ((∃ a token, answer = .ok a ∧ a.Grants token ∧ k.result = .ok token) ∨
      (¬∃ a token, answer = .ok a ∧ a.Grants token) ∧ ∃ reason, k.result = .error (.token reason))
  failed : ∀ e, k.result = .error e → k.onHand = held earlier ∧ ¬ k.Lasting

theorem Ready.renews_of_asked {earlier : List TokenCall} {k : TokenCall} {m : Http.Message}
    {answer : Except (List String) Http.Answer} (h : c.Ready now earlier before)
    (hstale : Stale now before) (hm : c.message = .ok m) (hk : k.contacts = [⟨m, answer⟩])
    (hresult : (∃ a token, answer = .ok a ∧ a.Grants token ∧ k.result = .ok token) ∨
      (¬∃ a token, answer = .ok a ∧ a.Grants token) ∧ ∃ reason, k.result = .error (.token reason))
    (hafter : ∀ e, k.result = .error e → k.onHand = before) : c.Renews earlier k where
  unsent why hwhy := by
    rw [hm] at hwhy
    cases hwhy
  asks_iff _ _ := by
    have hnone : ¬∃ x ∈ earlier, x.Lasting := fun hx => h.lasting.mp hx hstale
    simp [hk, hnone]
  served _ _ hnil := by
    rw [hk] at hnil
    cases hnil
  asked _ := ⟨m, answer, hm, hk, hresult⟩
  failed e he := ⟨(hafter e he).trans h.held, not_lasting_of_error he⟩

theorem Course.renews {earlier : List TokenCall} {k : TokenCall} (hk : c.Course now before k)
    (h : c.Ready now earlier before) : c.Renews earlier k := by
  cases hk with
  | @served t hbefore hgood =>
    subst hbefore
    obtain ⟨m, hm⟩ := h.sendable t rfl
    have hlasting : ∃ x ∈ earlier, x.Lasting :=
      h.lasting.mpr fun hstale => absurd (hstale t rfl) (by omega)
    refine ⟨?_, ?_, fun _ _ _ => ⟨t.token, h.last.symm, rfl⟩, fun hne => absurd rfl hne, nofun⟩
    · intro why hwhy
      rw [hm] at hwhy
      cases hwhy
    · intro _ _
      simpa using hlasting
  | unsent hstale hm =>
    refine ⟨fun _ _ => ⟨rfl, _, rfl⟩, ?_, ?_, fun hne => absurd rfl hne,
      fun _ _ => ⟨h.held, not_lasting_of_error rfl⟩⟩
    all_goals
      intro m hm'
      rw [hm] at hm'
      cases hm'
  | unanswered reason hstale hm =>
    exact h.renews_of_asked hstale hm rfl (.inr ⟨by simp, reason, rfl⟩) fun _ _ => rfl
  | denied reason hstale hm hno =>
    exact h.renews_of_asked hstale hm rfl (.inr ⟨by simpa using hno, reason, rfl⟩) fun _ _ => rfl
  | granted hstale hm ha =>
    exact h.renews_of_asked hstale hm rfl (.inl ⟨_, _, rfl, ha, rfl⟩) nofun

theorem calls_renew (c : ClientSecret) (hclock : ∀ s, w.clock s = now) (n : Nat)
    {earlier : List TokenCall} (h : c.Ready now earlier onHand) (s : σ) {before later : List TokenCall}
    {k : TokenCall} (hk : c.calls w n onHand s = before ++ k :: later) :
    c.Renews (earlier ++ before) k := by
  induction n generalizing earlier onHand s before with
  | zero => simp [calls] at hk
  | succ n ih =>
    have hstep := call_course c hclock onHand s
    rw [calls] at hk
    cases before with
    | nil =>
      obtain ⟨rfl, -⟩ := List.cons_eq_cons.mp hk
      rw [List.append_nil]
      exact hstep.renews h
    | cons x before =>
      obtain ⟨rfl, hrest⟩ := List.cons_eq_cons.mp hk
      rw [List.append_cons]
      exact ih (hstep.ready h) _ hrest

/-- While the clock stands still, a call asks for a new token if and only if none before it got a
token that lives for more than a minute, and returns the last token otherwise. One that asks returns
the token in the answer, or fails and leaves the token on hand. Where the address is none that can
be asked, each call fails. -/
theorem asks_until_lasting (c : ClientSecret) (w : Surroundings σ) {now : Nat}
    (hclock : ∀ s, w.clock s = now) {n : Nat} {s : σ} {earlier later : List TokenCall}
    {k : TokenCall} (h : c.calls w n none s = earlier ++ k :: later) : c.Renews earlier k := by
  simpa using calls_renew c hclock n ready_nil s h

def scripted : Surroundings (List (Except (List String) Http.Answer)) where
  exchange _ script := (script.head?.getD (.error ["connection refused"]), script.tail)
  runTool _ script := (.error "not installed", script)
  clock _ := 1000

def payments : ClientSecret := ⟨"http://[::1]:8080/token", "client-1", "secret", "scope"⟩

def script : List (Except (List String) Http.Answer) :=
  [.error ["timed out"], .ok ⟨502, Text.toUtf8 "<html>"⟩,
    .ok ⟨200, Text.toUtf8 "\x7b\"access_token\":\"first\",\"expires_in\":60\x7d"⟩,
    .ok ⟨500, Text.toUtf8 "\x7b\"access_token\":\"second\",\"expires_in\":\"60\"\x7d"⟩]

theorem asks_until_lasting_scripted : ∃ earlier k,
    payments.calls scripted 5 none script = earlier ++ [k] ∧ payments.Renews earlier k ∧
      k.contacts = [] ∧ k.result = .ok "second" := by
  have h : payments.calls scripted 5 none script =
      (payments.calls scripted 5 none script).take 4 ++
        [⟨[], .ok "second", some ⟨"second", 4540⟩⟩] := by
    decide +kernel
  exact ⟨_, _, h, asks_until_lasting payments scripted (fun _ => rfl) h, rfl, rfl⟩

end ClientSecret

end Federation
