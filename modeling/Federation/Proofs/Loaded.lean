import Mathlib.Data.List.Nodup
import Federation.Declaration.Load

namespace Federation

/-- The identity keeps the rules, and its credentials have different names and trust different
tokens. -/
structure WorkloadIdentity.Regular (i : WorkloadIdentity) : Prop where
  valid : i.violation? = none
  names : (i.credentials.map (·.name)).Nodup
  pairs : (i.credentials.map fun c => (c.issuer, c.subject)).Nodup

namespace Declaration

theorem bind_ok {ε α β : Type} {m : Except ε α} {f : α → Except ε β} {b : β}
    (h : (m >>= f) = .ok b) : ∃ a, m = .ok a ∧ f a = .ok b := by
  cases m with
  | error e => cases h
  | ok a => exact ⟨a, rfl, h⟩

theorem ite_error_ok {ε α : Type} {p : Prop} [Decidable p] {e : ε} {m : Except ε α} {a : α}
    (h : (if p then .error e else m) = .ok a) : ¬ p ∧ m = .ok a := by
  split at h
  · cases h
  · exact ⟨‹¬ p›, h⟩

theorem nodup_credentialsAfter {identity : String} {earlier : List CredentialSpec}
    {drafts : List CredentialDraft} {specs : List CredentialSpec}
    (h : credentialsAfter identity earlier drafts = .ok specs) :
    (specs.map (·.name)).Nodup ∧ (specs.map fun c => (c.issuer, c.subject)).Nodup ∧
      ∀ c ∈ specs, c.name ∉ earlier.map (·.name) ∧
        (c.issuer, c.subject) ∉ earlier.map fun e => (e.issuer, e.subject) := by
  induction drafts generalizing earlier specs with
  | nil =>
    cases h
    exact ⟨.nil, .nil, fun _ hc => nomatch hc⟩
  | cons d rest ih =>
    obtain ⟨c, -, h⟩ := bind_ok h
    obtain ⟨hname, h⟩ := ite_error_ok h
    obtain ⟨hpair, h⟩ := ite_error_ok h
    obtain ⟨cs, hcs, h⟩ := bind_ok h
    cases h
    obtain ⟨hnames, hpairs, hlater⟩ := ih hcs
    refine ⟨List.nodup_cons.mpr ⟨fun hm => ?_, hnames⟩, List.nodup_cons.mpr ⟨fun hm => ?_, hpairs⟩,
      fun e he => ?_⟩
    · obtain ⟨other, ho, hsame⟩ := List.mem_map.mp hm
      exact (hlater other ho).1 (by simp [hsame])
    · obtain ⟨other, ho, hsame⟩ := List.mem_map.mp hm
      exact (hlater other ho).2 (by simp [hsame])
    · obtain rfl | he := List.mem_cons.mp he
      · exact ⟨hname, hpair⟩
      · obtain ⟨hn, hp⟩ := hlater e he
        simp only [List.map_cons, List.mem_cons, not_or] at hn hp
        exact ⟨hn.2, hp.2⟩

theorem regular_identity {d : IdentityDraft} {i : WorkloadIdentity} (h : d.identity = .ok i) :
    i.displayName = d.name ∧ i.Regular := by
  obtain ⟨specs, hspecs, h⟩ := bind_ok h
  obtain ⟨hnames, hpairs, -⟩ := nodup_credentialsAfter hspecs
  dsimp only at h
  split at h
  · cases h
  · rename_i hvalid
    cases h
    exact ⟨rfl, hvalid, hnames, hpairs⟩

theorem nodup_identitiesAfter {earlier : List String} {drafts : List IdentityDraft}
    {identities : List WorkloadIdentity} (h : identitiesAfter earlier drafts = .ok identities) :
    (identities.map (·.displayName)).Nodup ∧
      ∀ i ∈ identities, i.displayName ∉ earlier ∧ i.Regular := by
  induction drafts generalizing earlier identities with
  | nil =>
    cases h
    exact ⟨.nil, fun _ hi => nomatch hi⟩
  | cons d rest ih =>
    obtain ⟨hnew, h⟩ := ite_error_ok h
    obtain ⟨i, hi, h⟩ := bind_ok h
    obtain ⟨is, his, h⟩ := bind_ok h
    cases h
    obtain ⟨hname, hregular⟩ := regular_identity hi
    obtain ⟨hnames, hlater⟩ := ih his
    refine ⟨List.nodup_cons.mpr ⟨fun hm => ?_, hnames⟩, fun j hj => ?_⟩
    · obtain ⟨other, ho, hsame⟩ := List.mem_map.mp hm
      exact (hlater other ho).1 (by simp [hsame, hname])
    · obtain rfl | hj := List.mem_cons.mp hj
      · exact ⟨hname ▸ hnew, hregular⟩
      · exact ⟨fun hm => (hlater j hj).1 (List.mem_cons_of_mem _ hm), (hlater j hj).2⟩

/-- The identities of a declaration have different names and are regular. -/
theorem regular_of_ofText {origin text : String} {d : Declaration}
    (h : ofText origin text = .ok d) :
    (d.identities.map (·.displayName)).Nodup ∧ ∀ i ∈ d.identities, i.Regular := by
  unfold ofText at h
  split at h
  · cases h
  · rename_i draft _
    cases hd : draft.declaration with
    | error r =>
      rw [hd] at h
      cases h
    | ok d' =>
      rw [hd] at h
      cases h
      obtain ⟨identities, his, hd⟩ := bind_ok hd
      cases hd
      obtain ⟨hnames, hall⟩ := nodup_identitiesAfter his
      exact ⟨hnames, fun i hi => (hall i hi).2⟩

end Declaration

end Federation
