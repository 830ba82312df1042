import Federation.Proofs.Accepted
import Federation.Reconcile.Run

namespace Federation

@[simp] def Violation.rank : Violation → Nat
  | .displayName => 0
  | .credentialName _ .length => 1
  | .credentialName _ .character => 2
  | .credentialName _ .start => 3
  | .issuer _ => 4
  | .subject _ => 5
  | .audience _ => 6

namespace CredentialSpec

/-- The credential breaks this rule, whatever other rules it breaks. -/
inductive Breaks (c : CredentialSpec) : Violation → Prop
  | length (h : c.name.toList.length < 3 ∨ 120 < c.name.toList.length) :
    Breaks c (.credentialName c.name .length)
  | character {x : Char} (hx : x ∈ c.name.toList)
    (h : ¬ (IsLetterOrDigit x ∨ x = '-' ∨ x = '_')) : Breaks c (.credentialName c.name .character)
  | start (h : ∀ x, c.name.toList.head? = some x → ¬ IsLetterOrDigit x) :
    Breaks c (.credentialName c.name .start)
  | issuer (h : ¬ IsIssuer c.issuer) : Breaks c (.issuer c.issuer)
  | subject (h : Text.trim c.subject = "") : Breaks c (.subject c.name)
  | audience (h : c.audiences = [] ∨ ∃ a ∈ c.audiences, Text.trim a = "") :
    Breaks c (.audience c.name)

def Lawful (c : CredentialSpec) : Prop := ∀ v, ¬ c.Breaks v

/-- The first rule that the credential breaks, in the order name, issuer, subject, audiences. -/
def BreaksFirst (c : CredentialSpec) (v : Violation) : Prop :=
  c.Breaks v ∧ ∀ w, c.Breaks w → v.rank ≤ w.rank

variable {c : CredentialSpec} {v w : Violation}

theorem Breaks.eq_of_rank (hv : c.Breaks v) (hw : c.Breaks w) (h : v.rank = w.rank) : v = w := by
  cases hv <;> cases hw <;> first | rfl | cases h

theorem BreaksFirst.unique (hv : c.BreaksFirst v) (hw : c.BreaksFirst w) : v = w :=
  hv.1.eq_of_rank hw.1 (Nat.le_antisymm (hv.2 w hw.1) (hw.2 v hv.1))

def Keeps (c : CredentialSpec) (rank : Nat) : Prop := ∀ v, c.Breaks v → rank ≤ v.rank

theorem Keeps.succ {rank : Nat} (h : c.Keeps rank) (hnot : ∀ v, c.Breaks v → v.rank ≠ rank) :
    c.Keeps (rank + 1) := fun v hv => Nat.lt_of_le_of_ne (h v hv) (hnot v hv).symm

theorem nameFault?_cases (c : CredentialSpec) :
    (nameFault? c.name = none ∧ c.Keeps 4) ∨
      ∃ fault, nameFault? c.name = some fault ∧ c.BreaksFirst (.credentialName c.name fault) := by
  unfold nameFault?
  dsimp only
  have hkeeps : c.Keeps 1 := fun v hv => by cases hv <;> simp
  by_cases hlength : c.name.toList.length < 3 ∨ 120 < c.name.toList.length
  · rw [if_pos hlength]
    exact .inr ⟨_, rfl, .length hlength, hkeeps⟩
  rw [if_neg hlength]
  have hkeeps : c.Keeps 2 := hkeeps.succ fun v hv hrank => by
    cases hv with
    | length h => exact hlength h
    | _ => simp at hrank
  by_cases hcharacter : c.name.toList.all isNameChar = true
  swap
  · rw [if_pos (by simpa using hcharacter)]
    obtain ⟨x, hx, hnot⟩ : ∃ x ∈ c.name.toList, ¬ isNameChar x = true := by
      simpa [List.all_eq_true] using hcharacter
    exact .inr ⟨_, rfl, .character hx (mt isNameChar_iff.mpr hnot), hkeeps⟩
  rw [if_neg (by simpa using hcharacter)]
  have hkeeps : c.Keeps 3 := hkeeps.succ fun v hv hrank => by
    cases hv with
    | character hx h => exact h (isNameChar_iff.mp (List.all_eq_true.mp hcharacter _ hx))
    | _ => simp at hrank
  by_cases hstart : c.name.toList.head?.any Char.isAlphanum = true
  swap
  · rw [if_pos (by simpa using hstart)]
    refine .inr ⟨_, rfl, .start fun x hx hx' => hstart ?_, hkeeps⟩
    rw [hx]
    exact isAlphanum_iff.mpr hx'
  rw [if_neg (by simpa using hstart)]
  refine .inl ⟨rfl, hkeeps.succ fun v hv hrank => ?_⟩
  cases hv with
  | start h =>
    obtain ⟨x, hx, hx'⟩ := (Option.any_eq_true _ _).mp hstart
    exact h x hx (isAlphanum_iff.mp hx')
  | _ => simp at hrank

theorem violation?_cases (c : CredentialSpec) :
    (c.violation? = none ∧ c.Lawful) ∨ ∃ v, c.violation? = some v ∧ c.BreaksFirst v := by
  unfold violation?
  obtain ⟨hname, hkeeps⟩ | ⟨fault, hname, hfirst⟩ := c.nameFault?_cases
  swap
  · rw [hname]
    exact .inr ⟨_, rfl, hfirst⟩
  rw [hname]
  dsimp only
  by_cases hissuer : isIssuer c.issuer = true
  swap
  · rw [if_pos (by simpa using hissuer)]
    exact .inr ⟨_, rfl, .issuer (mt isIssuer_iff.mpr hissuer), hkeeps⟩
  rw [if_neg (by simpa using hissuer)]
  have hkeeps : c.Keeps 5 := hkeeps.succ fun v hv hrank => by
    cases hv with
    | issuer h => exact h (isIssuer_iff.mp hissuer)
    | _ => simp at hrank
  by_cases hsubject : Text.isBlank c.subject = true
  · rw [if_pos hsubject]
    exact .inr ⟨_, rfl, .subject (Text.trim_eq_empty_iff.mpr hsubject), hkeeps⟩
  rw [if_neg hsubject]
  have hkeeps : c.Keeps 6 := hkeeps.succ fun v hv hrank => by
    cases hv with
    | subject h => exact hsubject (Text.trim_eq_empty_iff.mp h)
    | _ => simp at hrank
  have haudiences : (c.audiences.isEmpty || c.audiences.any Text.isBlank) = true ↔
      c.audiences = [] ∨ ∃ a ∈ c.audiences, Text.trim a = "" := by
    simp [Text.trim_eq_empty_iff]
  by_cases haudience : c.audiences = [] ∨ ∃ a ∈ c.audiences, Text.trim a = ""
  · rw [if_pos (haudiences.mpr haudience)]
    exact .inr ⟨_, rfl, .audience haudience, hkeeps⟩
  rw [if_neg (mt haudiences.mp haudience)]
  refine .inl ⟨rfl, fun v hv => ?_⟩
  have hrank := hkeeps v hv
  cases hv with
  | audience h => exact haudience h
  | _ => simp at hrank

theorem violation?_eq_some_iff : c.violation? = some v ↔ c.BreaksFirst v := by
  obtain ⟨hnone, hlawful⟩ | ⟨w, hw, hfirst⟩ := c.violation?_cases
  · rw [hnone]
    exact iff_of_false nofun fun h => hlawful v h.1
  · rw [hw, Option.some.injEq]
    exact ⟨fun h => h ▸ hfirst, hfirst.unique⟩

theorem violation?_eq_none_iff : c.violation? = none ↔ c.Lawful := by
  obtain ⟨hnone, hlawful⟩ | ⟨w, hw, hfirst⟩ := c.violation?_cases
  · exact iff_of_true hnone hlawful
  · rw [hw]
    exact iff_of_false nofun fun h => h w hfirst.1

end CredentialSpec

namespace WorkloadIdentity

structure Lawful (i : WorkloadIdentity) : Prop where
  displayName : Text.trim i.displayName ≠ ""
  credentials : ∀ c ∈ i.credentials, c.Lawful

/-- The first rule that the identity breaks: its display name is looked at before its
credentials. -/
inductive BreaksFirst (i : WorkloadIdentity) : Violation → Prop
  | displayName (h : Text.trim i.displayName = "") : BreaksFirst i .displayName
  | credential {before after : List CredentialSpec} {c : CredentialSpec} {v : Violation}
    (hname : Text.trim i.displayName ≠ "") (hsplit : i.credentials = before ++ c :: after)
    (hbefore : ∀ b ∈ before, b.Lawful) (h : c.BreaksFirst v) : BreaksFirst i v

variable {i : WorkloadIdentity} {v : Violation}

theorem violation?_eq_some_iff : i.violation? = some v ↔ i.BreaksFirst v := by
  unfold violation?
  by_cases hblank : Text.isBlank i.displayName = true
  · have hname := Text.trim_eq_empty_iff.mpr hblank
    rw [if_pos hblank, Option.some.injEq]
    constructor
    · rintro rfl
      exact .displayName hname
    · intro h
      cases h with
      | displayName => rfl
      | credential hne => exact absurd hname hne
  · have hname : Text.trim i.displayName ≠ "" := mt Text.trim_eq_empty_iff.mp hblank
    rw [if_neg hblank, List.findSome?_eq_some_iff]
    constructor
    · rintro ⟨before, c, after, hsplit, hc, hbefore⟩
      exact .credential hname hsplit
        (fun b hb => CredentialSpec.violation?_eq_none_iff.mp (hbefore b hb))
        (CredentialSpec.violation?_eq_some_iff.mp hc)
    · intro h
      cases h with
      | displayName hempty => exact absurd hempty hname
      | credential _ hsplit hbefore hc =>
        exact ⟨_, _, _, hsplit, CredentialSpec.violation?_eq_some_iff.mpr hc,
          fun b hb => CredentialSpec.violation?_eq_none_iff.mpr (hbefore b hb)⟩

theorem violation?_eq_none_iff : i.violation? = none ↔ i.Lawful := by
  unfold violation?
  by_cases hblank : Text.isBlank i.displayName = true
  · rw [if_pos hblank]
    exact iff_of_false nofun fun h => h.displayName (Text.trim_eq_empty_iff.mpr hblank)
  · rw [if_neg hblank, List.findSome?_eq_none_iff]
    refine ⟨fun h => ⟨mt Text.trim_eq_empty_iff.mp hblank, fun c hc => ?_⟩, fun h c hc => ?_⟩
    · exact CredentialSpec.violation?_eq_none_iff.mp (h c hc)
    · exact CredentialSpec.violation?_eq_none_iff.mpr (h.credentials c hc)

end WorkloadIdentity

namespace Order

/-- The first rule that the first identity at fault breaks, wherever in the request it stands. -/
def BreaksFirst (o : Order) (v : Violation) : Prop :=
  ∃ before i after, o.identities = before ++ i :: after ∧ (∀ b ∈ before, b.Lawful) ∧
    i.BreaksFirst v

variable {o : Order} {v : Violation}

theorem violation?_eq_some_iff : o.violation? = some v ↔ o.BreaksFirst v := by
  unfold violation? BreaksFirst
  simp only [List.findSome?_eq_some_iff, WorkloadIdentity.violation?_eq_some_iff,
    WorkloadIdentity.violation?_eq_none_iff]
  exact exists_congr fun _ => exists_congr fun _ => exists_congr fun _ =>
    and_congr_right fun _ => and_comm

theorem violation?_eq_none_iff : o.violation? = none ↔ ∀ i ∈ o.identities, i.Lawful := by
  unfold violation?
  simp only [List.findSome?_eq_none_iff, WorkloadIdentity.violation?_eq_none_iff]

end Order

end Federation
