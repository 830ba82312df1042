import Mathlib.Data.List.Forall2
import Mathlib.Data.List.TakeWhile
import Federation.Proofs.Loaded

namespace Federation

namespace Text

theorem trim_eq_empty_iff {s : String} : trim s = "" ↔ isBlank s = true := by
  unfold trim isBlank
  rw [← String.toList_inj, String.toList_ofList, String.toList_empty, List.reverse_eq_nil_iff,
    List.dropWhile_eq_nil_iff, List.all_eq_true]
  refine ⟨fun h => ?_, fun h c hc => ?_⟩
  · have hnil : s.toList.dropWhile isBlankChar = [] := by
      by_contra hne
      have hhead := List.head_dropWhile_not isBlankChar hne
      rw [h _ (List.mem_reverse.mpr (List.head_mem hne))] at hhead
      cases hhead
    exact List.dropWhile_eq_nil_iff.mp hnil
  · exact h c ((List.dropWhile_sublist _).mem (List.mem_reverse.mp hc))

end Text

def IsLetterOrDigit (c : Char) : Prop :=
  'A' ≤ c ∧ c ≤ 'Z' ∨ 'a' ≤ c ∧ c ≤ 'z' ∨ '0' ≤ c ∧ c ≤ '9'

theorem isAlphanum_iff {c : Char} : c.isAlphanum = true ↔ IsLetterOrDigit c := by
  have hupper : c.isUpper = true ↔ 'A' ≤ c ∧ c ≤ 'Z' := decide_eq_true_iff
  have hlower : c.isLower = true ↔ 'a' ≤ c ∧ c ≤ 'z' := by
    unfold Char.isLower
    rw [Bool.and_eq_true, decide_eq_true_iff, decide_eq_true_iff]
    rfl
  have hdigit : c.isDigit = true ↔ '0' ≤ c ∧ c ≤ '9' := by
    unfold Char.isDigit
    rw [Bool.and_eq_true, decide_eq_true_iff, decide_eq_true_iff]
    rfl
  unfold Char.isAlphanum Char.isAlpha
  rw [Bool.or_eq_true, Bool.or_eq_true, hupper, hlower, hdigit, or_assoc]
  rfl

theorem isNameChar_iff {c : Char} :
    isNameChar c = true ↔ IsLetterOrDigit c ∨ c = '-' ∨ c = '_' := by
  simp only [isNameChar, Bool.or_eq_true, isAlphanum_iff, beq_iff_eq, or_assoc]

def IsCredentialName (name : String) : Prop :=
  ∃ first rest, name.toList = first :: rest ∧ IsLetterOrDigit first ∧
    (2 ≤ rest.length ∧ rest.length ≤ 119) ∧
    ∀ c ∈ rest, IsLetterOrDigit c ∨ c = '-' ∨ c = '_'

theorem nameFault?_eq_none_iff {name : String} :
    nameFault? name = none ↔ IsCredentialName name := by
  have hrules : nameFault? name = none ↔ ¬ (name.toList.length < 3 ∨ 120 < name.toList.length) ∧
      name.toList.all isNameChar = true ∧ name.toList.head?.any Char.isAlphanum = true := by
    dsimp only [nameFault?]
    by_cases hlength : name.toList.length < 3 ∨ 120 < name.toList.length
    · rw [if_pos hlength]
      exact iff_of_false nofun fun h => h.1 hlength
    · rw [if_neg hlength, and_iff_right hlength]
      cases name.toList.all isNameChar with
      | false => exact iff_of_false nofun fun h => nomatch h.1
      | true => cases name.toList.head?.any Char.isAlphanum <;> simp
  rw [hrules, IsCredentialName]
  cases name.toList with
  | nil => simp
  | cons first rest =>
    simp only [List.length_cons, List.all_cons, List.head?_cons, Option.any_some,
      Bool.and_eq_true, List.all_eq_true, isNameChar_iff, isAlphanum_iff, List.cons.injEq]
    constructor
    · rintro ⟨hlength, ⟨-, hrest⟩, hfirst⟩
      exact ⟨first, rest, ⟨rfl, rfl⟩, hfirst, by omega, hrest⟩
    · rintro ⟨_, _, ⟨rfl, rfl⟩, hfirst, hlength, hrest⟩
      exact ⟨by omega, ⟨.inl hfirst, hrest⟩, hfirst⟩

def IsIssuer (issuer : String) : Prop := ∃ rest, rest ≠ "" ∧ issuer = "https://" ++ rest

theorem isIssuer_iff {issuer : String} : isIssuer issuer = true ↔ IsIssuer issuer := by
  unfold isIssuer IsIssuer
  rw [Bool.and_eq_true, List.isPrefixOf_iff_prefix, decide_eq_true_eq]
  constructor
  · rintro ⟨⟨rest, hrest⟩, hlength⟩
    refine ⟨String.ofList rest, ?_, ?_⟩
    · rintro hempty
      have hnil : rest = [] := by
        rw [← String.toList_ofList (l := rest), hempty, String.toList_empty]
      rw [hnil, List.append_nil] at hrest
      rw [String.toList_inj.mp hrest] at hlength
      exact Nat.lt_irrefl _ hlength
    · rw [← String.toList_inj, ← hrest, String.toList_append]
      exact congrArg (httpsScheme.toList ++ ·) String.toList_ofList.symm
  · rintro ⟨rest, hne, rfl⟩
    refine ⟨⟨rest.toList, (String.toList_append).symm⟩, ?_⟩
    rw [String.length_append]
    have hlength : rest.length ≠ 0 := fun h => hne (String.length_eq_zero_iff.mp h)
    exact Nat.lt_add_of_pos_right (Nat.pos_of_ne_zero hlength)

namespace Declaration

namespace CredentialDraft

variable {d e : CredentialDraft} {c : CredentialSpec} {s t : String}

/-- The subject that the draft gives, by itself or by a service account. -/
inductive Gives (d : CredentialDraft) : String → Prop
  | subject {s : String} (hs : d.subject = some s) (ha : d.serviceAccount = none) : Gives d s
  | account {a : ServiceAccount} (hs : d.subject = none) (ha : d.serviceAccount = some a) :
    Gives d ("system:serviceaccount:" ++ a.namespaceName ++ ":" ++ a.name)

structure Declares (d : CredentialDraft) (c : CredentialSpec) : Prop where
  name : c.name = d.name
  issuer : c.issuer = d.issuer
  subject : d.Gives c.subject
  audiences : c.audiences = d.audiences.getD [defaultAudience]
  description : c.description = d.description

structure Lawful (d : CredentialDraft) : Prop where
  name : IsCredentialName d.name
  issuer : IsIssuer d.issuer
  subject : ∀ s, d.Gives s → Text.trim s ≠ ""
  audiences : d.audiences.getD [defaultAudience] ≠ [] ∧
    ∀ a ∈ d.audiences.getD [defaultAudience], Text.trim a ≠ ""

/-- The first rule that the draft breaks. -/
inductive Breaks (d : CredentialDraft) : Violation → Prop
  | name {fault : NameFault} (hname : ¬ IsCredentialName d.name)
    (hfault : nameFault? d.name = some fault) : Breaks d (.credentialName d.name fault)
  | issuer (hname : IsCredentialName d.name) (hissuer : ¬ IsIssuer d.issuer) :
    Breaks d (.issuer d.issuer)
  | subject {s : String} (hname : IsCredentialName d.name) (hissuer : IsIssuer d.issuer)
    (hs : d.Gives s) (hblank : Text.trim s = "") : Breaks d (.subject d.name)
  | audience (hname : IsCredentialName d.name) (hissuer : IsIssuer d.issuer)
    (hs : ∀ s, d.Gives s → Text.trim s ≠ "")
    (haudiences : ¬ (d.audiences.getD [defaultAudience] ≠ [] ∧
      ∀ a ∈ d.audiences.getD [defaultAudience], Text.trim a ≠ "")) : Breaks d (.audience d.name)

theorem Gives.unique (h : d.Gives s) (h' : d.Gives t) : s = t := by
  cases h with
  | subject hs ha =>
    cases h' with
    | subject hs' ha' => exact Option.some.inj (hs.symm.trans hs')
    | account hs' ha' => cases ha.symm.trans ha'
  | account hs ha =>
    cases h' with
    | subject hs' ha' => cases ha.symm.trans ha'
    | account hs' ha' =>
      obtain rfl := Option.some.inj (ha.symm.trans ha')
      rfl

theorem subjectText_eq_ok_iff {identity : String} : d.subjectText identity = .ok s ↔ d.Gives s := by
  unfold subjectText
  constructor
  · intro h
    split at h
    · cases h
      exact .subject ‹_› ‹_›
    · cases h
      exact .account ‹_› ‹_›
    · cases h
    · cases h
  · intro h
    cases h with
    | subject hs ha => rw [hs, ha]
    | account hs ha =>
      rw [hs, ha]
      rfl

theorem Breaks.not_lawful {v : Violation} (h : d.Breaks v) : ¬ d.Lawful := by
  intro hlawful
  cases h with
  | name hname _ => exact hname hlawful.name
  | issuer _ hissuer => exact hissuer hlawful.issuer
  | subject _ _ hs hblank => exact hlawful.subject _ hs hblank
  | audience _ _ _ haudiences => exact haudiences hlawful.audiences

theorem audiences_iff {l : List String} : (l.isEmpty || l.any Text.isBlank) = false ↔
    l ≠ [] ∧ ∀ a ∈ l, Text.trim a ≠ "" := by
  simp only [Bool.or_eq_false_iff, List.isEmpty_eq_false_iff, List.any_eq_false, ne_eq,
    Text.trim_eq_empty_iff]

theorem Declares.violation (h : d.Declares c) :
    (c.violation? = none ∧ d.Lawful) ∨ ∃ v, c.violation? = some v ∧ d.Breaks v := by
  unfold CredentialSpec.violation?
  rw [h.name, h.issuer, h.audiences]
  cases hfault : nameFault? d.name with
  | some fault =>
    refine .inr ⟨_, rfl, .name (fun hname => ?_) hfault⟩
    rw [nameFault?_eq_none_iff.mpr hname] at hfault
    cases hfault
  | none =>
    have hname := nameFault?_eq_none_iff.mp hfault
    by_cases hissuer : isIssuer d.issuer = true
    swap
    · refine .inr ⟨.issuer d.issuer, by simp [hissuer], .issuer hname ?_⟩
      exact fun h => hissuer (isIssuer_iff.mpr h)
    by_cases hblank : Text.isBlank c.subject = true
    · refine .inr ⟨.subject d.name, by simp [hissuer, hblank], ?_⟩
      exact .subject hname (isIssuer_iff.mp hissuer) h.subject (Text.trim_eq_empty_iff.mpr hblank)
    have hsubject : ∀ s, d.Gives s → Text.trim s ≠ "" := by
      intro s hs hempty
      rw [hs.unique h.subject] at hempty
      exact hblank (Text.trim_eq_empty_iff.mp hempty)
    cases haudiences : (d.audiences.getD [defaultAudience]).isEmpty ||
        (d.audiences.getD [defaultAudience]).any Text.isBlank with
    | false =>
      refine .inl ⟨by simp [hissuer, hblank], ?_⟩
      exact ⟨hname, isIssuer_iff.mp hissuer, hsubject, audiences_iff.mp haudiences⟩
    | true =>
      refine .inr ⟨.audience d.name, by simp [hissuer, hblank], ?_⟩
      refine .audience hname (isIssuer_iff.mp hissuer) hsubject fun h => ?_
      rw [audiences_iff.mpr h] at haudiences
      cases haudiences

end CredentialDraft

open CredentialDraft (Declares)

structure Coherent (ds : List CredentialDraft) : Prop where
  sources : ∀ d ∈ ds, ∃ s, d.Gives s
  names : (ds.map (·.name)).Nodup
  pairs : ds.Pairwise fun d e => ∀ s, d.Gives s → e.Gives s → d.issuer ≠ e.issuer

/-- A credential has no subject, or two, or its name or what it trusts is that of one before it. -/
inductive CredentialDraft.Clashes (identity : String) (before : List CredentialDraft)
    (d : CredentialDraft) : Conflict → Prop
  | both (hs : d.subject.isSome = true) (ha : d.serviceAccount.isSome = true) :
    Clashes identity before d (.twoSubjects identity d.name)
  | neither (hs : d.subject = none) (ha : d.serviceAccount = none) :
    Clashes identity before d (.noSubject identity d.name)
  | name {s : String} (hs : d.Gives s) (hname : d.name ∈ before.map (·.name)) :
    Clashes identity before d (.repeatedName identity d.name)
  | pair {s : String} {e : CredentialDraft} (hs : d.Gives s)
    (hname : d.name ∉ before.map (·.name)) (he : e ∈ before) (hissuer : e.issuer = d.issuer)
    (hsubject : e.Gives s) : Clashes identity before d (.repeatedKey identity d.name d.issuer s)

def Conflicts (identity : String) (ds : List CredentialDraft) (x : Conflict) : Prop :=
  ∃ before d after, ds = before ++ d :: after ∧ Coherent before ∧ d.Clashes identity before x

section Credentials

variable {identity : String} {before ds : List CredentialDraft} {d : CredentialDraft}
  {cs : List CredentialSpec} {x : Conflict}

theorem Coherent.nil : Coherent [] := ⟨nofun, .nil, .nil⟩

theorem Coherent.concat {s : String} (h : Coherent before) (hs : d.Gives s)
    (hname : d.name ∉ before.map (·.name))
    (hpair : ∀ e ∈ before, e.Gives s → e.issuer ≠ d.issuer) : Coherent (before ++ [d]) where
  sources e he := by
    obtain he | he := List.mem_append.mp he
    · exact h.sources e he
    · rw [List.mem_singleton.mp he]
      exact ⟨s, hs⟩
  names := by
    rw [List.map_append, List.map_singleton, ← List.concat_eq_append]
    exact h.names.concat hname
  pairs := by
    refine List.pairwise_append.mpr ⟨h.pairs, List.pairwise_singleton _ _, ?_⟩
    intro e he e' he' t ht ht'
    rw [List.mem_singleton.mp he'] at ht' ⊢
    rw [ht'.unique hs] at ht
    exact hpair e he ht

theorem Conflicts.not_coherent (h : Conflicts identity ds x) : ¬ Coherent ds := by
  obtain ⟨before, d, after, rfl, -, hclash⟩ := h
  intro hc
  have hd : d ∈ before ++ d :: after := by simp
  cases hclash with
  | both hs ha =>
    obtain ⟨s, hgives⟩ := hc.sources d hd
    cases hgives with
    | subject _ hnone => simp [hnone] at ha
    | account hnone _ => simp [hnone] at hs
  | neither hs ha =>
    obtain ⟨s, hgives⟩ := hc.sources d hd
    cases hgives with
    | subject hsome _ => cases hs.symm.trans hsome
    | account _ hsome => cases ha.symm.trans hsome
  | name _ hname =>
    have hnames := hc.names
    rw [List.map_append, List.nodup_append] at hnames
    exact hnames.2.2 _ hname _ (by simp) rfl
  | pair hs _ he hissuer hsubject =>
    exact (List.pairwise_append.mp hc.pairs).2.2 _ he d (by simp) _ hsubject hs hissuer

theorem subjectText_eq_error {r : Refusal} (h : d.subjectText identity = .error r) :
    ∃ x, r = .conflict x ∧ ∀ before, d.Clashes identity before x := by
  unfold CredentialDraft.subjectText at h
  split at h
  · cases h
  · cases h
  · rename_i hs ha
    cases h
    exact ⟨_, rfl, fun _ => .both (by simp [hs]) (by simp [ha])⟩
  · rename_i hs ha
    cases h
    exact ⟨_, rfl, fun _ => .neither hs ha⟩

theorem map_name_of_declares (h : List.Forall₂ Declares ds cs) :
    cs.map (·.name) = ds.map (·.name) := by
  induction h with
  | nil => rfl
  | cons hd _ ih => rw [List.map_cons, List.map_cons, hd.name, ih]

theorem mem_pairs_of_declares (h : List.Forall₂ Declares ds cs) (issuer subject : String) :
    (issuer, subject) ∈ cs.map (fun c => (c.issuer, c.subject)) ↔
      ∃ d ∈ ds, d.issuer = issuer ∧ d.Gives subject := by
  induction h with
  | nil => simp
  | @cons d c _ _ hd _ ih =>
    rw [List.map_cons, List.mem_cons, ih, List.exists_mem_cons_iff, Prod.mk.injEq, hd.issuer]
    refine or_congr_left (and_congr eq_comm ⟨fun h => ?_, fun h => h.unique hd.subject⟩)
    rw [h]
    exact hd.subject

variable (ds) in
theorem credentialsAfter_cases {earlier : List CredentialSpec} (hbefore : Coherent before)
    (hearlier : List.Forall₂ Declares before.reverse earlier) :
    (∃ cs, credentialsAfter identity earlier ds = .ok cs ∧ List.Forall₂ Declares ds cs ∧
        Coherent (before ++ ds)) ∨
      ∃ x, credentialsAfter identity earlier ds = .error (.conflict x) ∧
        Conflicts identity (before ++ ds) x := by
  induction ds generalizing before earlier with
  | nil =>
    rw [List.append_nil]
    exact .inl ⟨[], rfl, .nil, hbefore⟩
  | cons d rest ih =>
    unfold credentialsAfter CredentialDraft.spec
    cases hsubject : d.subjectText identity with
    | error r =>
      obtain ⟨x, rfl, hclash⟩ := subjectText_eq_error hsubject
      exact .inr ⟨x, rfl, before, d, rest, rfl, hbefore, hclash before⟩
    | ok s =>
      have hs : d.Gives s := CredentialDraft.subjectText_eq_ok_iff.mp hsubject
      have hnames : d.name ∈ earlier.map (·.name) ↔ d.name ∈ before.map (·.name) := by
        rw [map_name_of_declares hearlier, List.map_reverse, List.mem_reverse]
      have hpairs := mem_pairs_of_declares hearlier d.issuer s
      dsimp only [bind, Except.bind]
      by_cases hname : d.name ∈ before.map (·.name)
      · rw [if_pos (hnames.mpr hname)]
        exact .inr ⟨_, rfl, before, d, rest, rfl, hbefore, .name hs hname⟩
      rw [if_neg (mt hnames.mp hname)]
      by_cases hpair : ∃ e ∈ before.reverse, e.issuer = d.issuer ∧ e.Gives s
      · rw [if_pos (hpairs.mpr hpair)]
        obtain ⟨e, he, hissuer, hgives⟩ := hpair
        exact .inr ⟨_, rfl, before, d, rest, rfl, hbefore,
          .pair hs hname (List.mem_reverse.mp he) hissuer hgives⟩
      rw [if_neg (mt hpairs.mp hpair)]
      have hnext : Coherent (before ++ [d]) := hbefore.concat hs hname fun e he ht hissuer =>
        hpair ⟨e, List.mem_reverse.mpr he, hissuer, ht⟩
      have hdeclares : d.Declares
          ⟨d.name, d.issuer, s, d.audiences.getD [defaultAudience], d.description⟩ :=
        ⟨rfl, rfl, hs, rfl, rfl⟩
      -- The credentials read so far are kept last first.
      have hrest := ih hnext (by
        rw [List.reverse_append, List.reverse_singleton, List.singleton_append]
        exact hearlier.cons hdeclares)
      rw [List.append_assoc, List.singleton_append] at hrest
      obtain ⟨cs, hcs, hall, hcoherent⟩ | ⟨x, hx, hconflicts⟩ := hrest
      · rw [hcs]
        exact .inl ⟨_, rfl, hall.cons hdeclares, hcoherent⟩
      · rw [hx]
        exact .inr ⟨x, rfl, hconflicts⟩

theorem findSome?_of_declares (h : List.Forall₂ Declares ds cs) :
    (cs.findSome? CredentialSpec.violation? = none ∧ ∀ d ∈ ds, d.Lawful) ∨
      ∃ v before d after, cs.findSome? CredentialSpec.violation? = some v ∧
        ds = before ++ d :: after ∧ (∀ e ∈ before, e.Lawful) ∧ d.Breaks v := by
  induction h with
  | nil => exact .inl ⟨rfl, nofun⟩
  | @cons d c rest _ hd _ ih =>
    obtain ⟨hnone, hlawful⟩ | ⟨v, hv, hbreaks⟩ := hd.violation
    · rw [List.findSome?_cons, hnone]
      obtain ⟨hrest, hall⟩ | ⟨v, before, e, after, hv, rfl, hall, hbreaks⟩ := ih
      · exact .inl ⟨hrest, List.forall_mem_cons.mpr ⟨hlawful, hall⟩⟩
      · exact .inr ⟨v, d :: before, e, after, hv, rfl,
          List.forall_mem_cons.mpr ⟨hlawful, hall⟩, hbreaks⟩
    · rw [List.findSome?_cons, hv]
      exact .inr ⟨v, [], d, rest, rfl, rfl, nofun, hbreaks⟩

end Credentials

namespace IdentityDraft

variable {d : IdentityDraft}

structure Declares (d : IdentityDraft) (i : WorkloadIdentity) : Prop where
  displayName : i.displayName = d.name
  tags : i.tags = d.tags
  credentials : List.Forall₂ CredentialDraft.Declares d.credentials i.credentials

structure Lawful (d : IdentityDraft) : Prop where
  name : Text.trim d.name ≠ ""
  credentials : ∀ c ∈ d.credentials, c.Lawful

inductive Breaks (d : IdentityDraft) : Violation → Prop
  | displayName (hname : Text.trim d.name = "") : Breaks d .displayName
  | credential {before after : List CredentialDraft} {c : CredentialDraft} {v : Violation}
    (hname : Text.trim d.name ≠ "") (hc : d.credentials = before ++ c :: after)
    (hbefore : ∀ e ∈ before, e.Lawful) (hbreaks : c.Breaks v) : Breaks d v

/-- Why an identity is not declared, after those of other names: its name is one of these, or
credentials of it clash, or it breaks a rule. -/
inductive Offends (d : IdentityDraft) (earlier : List String) : Refusal → Prop
  | repeated (hname : d.name ∈ earlier) : Offends d earlier (.conflict (.repeatedIdentity d.name))
  | conflict {x : Conflict} (hname : d.name ∉ earlier) (hx : Conflicts d.name d.credentials x) :
    Offends d earlier (.conflict x)
  | violation {v : Violation} (hname : d.name ∉ earlier) (hcoherent : Coherent d.credentials)
    (hv : d.Breaks v) : Offends d earlier (.violation v)

theorem Breaks.not_lawful {v : Violation} (h : d.Breaks v) : ¬ d.Lawful := by
  intro hlawful
  cases h with
  | displayName hname => exact hlawful.name hname
  | credential _ hc _ hbreaks =>
    refine hbreaks.not_lawful (hlawful.credentials _ ?_)
    rw [hc]
    simp

theorem identity_cases (d : IdentityDraft) :
    (∃ i, d.identity = .ok i ∧ d.Declares i ∧ Coherent d.credentials ∧ d.Lawful) ∨
      (∃ x, d.identity = .error (.conflict x) ∧ Conflicts d.name d.credentials x) ∨
      ∃ v, d.identity = .error (.violation v) ∧ Coherent d.credentials ∧ d.Breaks v := by
  unfold identity
  obtain ⟨cs, hcs, hall, hcoherent⟩ | ⟨x, hx, hconflicts⟩ :=
    credentialsAfter_cases d.credentials .nil .nil
  swap
  · rw [hx]
    exact .inr (.inl ⟨x, rfl, hconflicts⟩)
  rw [hcs]
  dsimp only [bind, Except.bind]
  unfold WorkloadIdentity.violation?
  by_cases hblank : Text.isBlank d.name = true
  · rw [if_pos hblank]
    exact .inr (.inr ⟨_, rfl, hcoherent, .displayName (Text.trim_eq_empty_iff.mpr hblank)⟩)
  · rw [if_neg hblank]
    have hname : Text.trim d.name ≠ "" := fun h => hblank (Text.trim_eq_empty_iff.mp h)
    obtain ⟨hnone, hlawful⟩ | ⟨v, before, c, after, hv, hc, hbefore, hbreaks⟩ :=
      findSome?_of_declares hall
    · rw [hnone]
      exact .inl ⟨_, rfl, ⟨rfl, rfl, hall⟩, hcoherent, hname, hlawful⟩
    · rw [hv]
      exact .inr (.inr ⟨v, rfl, hcoherent, .credential hname hc hbefore hbreaks⟩)

end IdentityDraft

/-- The identities have different names, their credentials fit together, and all keep the rules. -/
structure Valid (ds : List IdentityDraft) : Prop where
  names : (ds.map (·.name)).Nodup
  coherent : ∀ d ∈ ds, Coherent d.credentials
  lawful : ∀ d ∈ ds, d.Lawful

/-- The first identity that offends does so for this reason. -/
def Rejects (ds : List IdentityDraft) (r : Refusal) : Prop :=
  ∃ before d after, ds = before ++ d :: after ∧ Valid before ∧ d.Offends (before.map (·.name)) r

structure Draft.Declares (d : Draft) (x : Declaration) : Prop where
  settings : x.settings = d.directory.getD ⟨none, none⟩
  identities : List.Forall₂ IdentityDraft.Declares d.identities x.identities

section Identities

variable {before ds : List IdentityDraft} {d : IdentityDraft} {r : Refusal}

theorem Valid.nil : Valid [] := ⟨.nil, nofun, nofun⟩

theorem Valid.concat (h : Valid before) (hname : d.name ∉ before.map (·.name))
    (hcoherent : Coherent d.credentials) (hlawful : d.Lawful) : Valid (before ++ [d]) where
  names := by
    rw [List.map_append, List.map_singleton, ← List.concat_eq_append]
    exact h.names.concat hname
  coherent := List.forall_mem_append.mpr ⟨h.coherent, by simpa using hcoherent⟩
  lawful := List.forall_mem_append.mpr ⟨h.lawful, by simpa using hlawful⟩

theorem Rejects.not_valid (h : Rejects ds r) : ¬ Valid ds := by
  obtain ⟨before, d, after, rfl, -, hoffends⟩ := h
  intro hvalid
  have hd : d ∈ before ++ d :: after := by simp
  cases hoffends with
  | repeated hname =>
    have hnames := hvalid.names
    rw [List.map_append, List.nodup_append] at hnames
    exact hnames.2.2 _ hname _ (by simp) rfl
  | conflict _ hx => exact hx.not_coherent (hvalid.coherent d hd)
  | violation _ _ hv => exact hv.not_lawful (hvalid.lawful d hd)

theorem IdentityDraft.Offends.conflict_iff {earlier : List String} (h : d.Offends earlier r) :
    (∃ x, r = .conflict x) ↔ d.name ∈ earlier ∨ ¬ Coherent d.credentials := by
  cases h with
  | repeated hname => exact iff_of_true ⟨_, rfl⟩ (.inl hname)
  | conflict _ hx => exact iff_of_true ⟨_, rfl⟩ (.inr hx.not_coherent)
  | violation hname hcoherent _ =>
    exact iff_of_false nofun fun h => h.elim hname fun hn => hn hcoherent

variable (ds) in
theorem identitiesAfter_cases (earlier : List String) (hbefore : Valid before)
    (hearlier : ∀ a, a ∈ earlier ↔ a ∈ before.map (·.name)) :
    (∃ is, identitiesAfter earlier ds = .ok is ∧ List.Forall₂ IdentityDraft.Declares ds is ∧
        Valid (before ++ ds)) ∨
      ∃ r, identitiesAfter earlier ds = .error r ∧ Rejects (before ++ ds) r := by
  induction ds generalizing before earlier with
  | nil =>
    rw [List.append_nil]
    exact .inl ⟨[], rfl, .nil, hbefore⟩
  | cons d rest ih =>
    unfold identitiesAfter
    by_cases hname : d.name ∈ before.map (·.name)
    · rw [if_pos ((hearlier _).mpr hname)]
      exact .inr ⟨_, rfl, before, d, rest, rfl, hbefore, .repeated hname⟩
    rw [if_neg (mt (hearlier _).mp hname)]
    obtain ⟨i, hi, hdeclares, hcoherent, hlawful⟩ | ⟨x, hx, hconflicts⟩ |
      ⟨v, hv, hcoherent, hbreaks⟩ := d.identity_cases
    · rw [hi]
      have hmem : ∀ a, a ∈ d.name :: earlier ↔ a ∈ (before ++ [d]).map (·.name) := fun a => by
        simp [hearlier, or_comm]
      have hrest := ih _ (hbefore.concat hname hcoherent hlawful) hmem
      rw [List.append_assoc, List.singleton_append] at hrest
      obtain ⟨is, his, hall, hvalid⟩ | ⟨r, hr, hrejects⟩ := hrest
      · dsimp only [bind, Except.bind]
        rw [his]
        exact .inl ⟨_, rfl, hall.cons hdeclares, hvalid⟩
      · dsimp only [bind, Except.bind]
        rw [hr]
        exact .inr ⟨r, rfl, hrejects⟩
    · rw [hx]
      exact .inr ⟨_, rfl, before, d, rest, rfl, hbefore, .conflict hname hconflicts⟩
    · rw [hv]
      exact .inr ⟨_, rfl, before, d, rest, rfl, hbefore, .violation hname hcoherent hbreaks⟩

end Identities

theorem Draft.declaration_cases (d : Draft) :
    (∃ x, d.declaration = .ok x ∧ d.Declares x ∧ Valid d.identities) ∨
      ∃ r, d.declaration = .error r ∧ Rejects d.identities r := by
  unfold declaration
  obtain ⟨is, his, hall, hvalid⟩ | ⟨r, hr, hrejects⟩ :=
    identitiesAfter_cases d.identities [] .nil fun _ => Iff.rfl
  · rw [his]
    exact .inl ⟨_, rfl, ⟨rfl, hall⟩, hvalid⟩
  · rw [hr]
    exact .inr ⟨r, rfl, hrejects⟩

/-- What is written in a file is loaded exactly if it is valid, and then as it was declared, field
by field. Else the first identity that offends is told: as a conflict if its name is not new or its
credentials clash, and else as a violation of a rule. -/
theorem loaded_iff_valid {text : String} {draft : Draft} (h : Draft.reader.run text = .ok draft)
    (origin : String) :
    ((∃ x, ofText origin text = .ok x) ↔ Valid draft.identities) ∧
    (∀ x, ofText origin text = .ok x → draft.Declares x) ∧
    (¬ Valid draft.identities → ∃ before d after r,
      ofText origin text = .error ⟨origin, .refused r⟩ ∧
      draft.identities = before ++ d :: after ∧ Valid before ∧ d.Offends (before.map (·.name)) r ∧
      ((∃ x, r = .conflict x) ↔ d.name ∈ before.map (·.name) ∨ ¬ Coherent d.credentials)) := by
  have hload : ofText origin text =
      draft.declaration.mapError fun r => ⟨origin, .refused r⟩ := by
    unfold ofText
    rw [h]
  rw [hload]
  obtain ⟨x, hx, hdeclares, hvalid⟩ | ⟨r, hr, hrejects⟩ := draft.declaration_cases
  · rw [hx]
    refine ⟨iff_of_true ⟨x, rfl⟩ hvalid, fun y hy => ?_, fun hn => absurd hvalid hn⟩
    cases hy
    exact hdeclares
  · rw [hr]
    refine ⟨iff_of_false nofun hrejects.not_valid, nofun, fun _ => ?_⟩
    obtain ⟨before, d, after, hsplit, hbefore, hoffends⟩ := hrejects
    exact ⟨before, d, after, r, rfl, hsplit, hbefore, hoffends, hoffends.conflict_iff⟩

namespace Sample

def text (second : String) : String :=
  "identities:\n- name: ledger\n  federated_credentials:\n" ++
  "  - \x7bname: aks, issuer: https://aks.example, " ++
    "service_account: \x7bnamespace: prod, name: web\x7d\x7d\n" ++
  "- name: " ++ second ++ "\n"

def draft (second : String) : Draft :=
  ⟨none, [⟨"ledger", [], [⟨"aks", "https://aks.example", none, some ⟨"prod", "web"⟩, none, none⟩]⟩,
    ⟨second, [], []⟩]⟩

theorem run_text : Draft.reader.run (text "payments") = .ok (draft "payments") := by
  decide +kernel

theorem ofText_text : ofText "tether.yaml" (text "payments") = .ok ⟨⟨none, none⟩,
    [⟨"ledger", [], [.basic "aks" "https://aks.example" "system:serviceaccount:prod:web"]⟩,
      ⟨"payments", [], []⟩]⟩ := by
  decide +kernel

theorem run_text_repeated : Draft.reader.run (text "ledger") = .ok (draft "ledger") := by
  decide +kernel

end Sample

/-- A file that is loaded, and one that is not: in it an identity has the name of another. -/
theorem loaded_iff_valid_sample :
    (Draft.reader.run (Sample.text "payments") = .ok (Sample.draft "payments") ∧
      Valid (Sample.draft "payments").identities) ∧
    Draft.reader.run (Sample.text "ledger") = .ok (Sample.draft "ledger") ∧
    ∃ r, ofText "tether.yaml" (Sample.text "ledger") = .error ⟨"tether.yaml", .refused r⟩ ∧
      Rejects (Sample.draft "ledger").identities r := by
  refine ⟨⟨Sample.run_text, ?_⟩, Sample.run_text_repeated, ?_⟩
  · exact (loaded_iff_valid Sample.run_text "tether.yaml").1.mp ⟨_, Sample.ofText_text⟩
  · obtain ⟨-, -, hrejected⟩ := loaded_iff_valid Sample.run_text_repeated "tether.yaml"
    have hrepeated : ¬ Valid (Sample.draft "ledger").identities := fun hvalid => by
      simpa [Sample.draft] using hvalid.names
    obtain ⟨before, d, after, r, hr, hsplit, hbefore, hoffends, -⟩ := hrejected hrepeated
    exact ⟨r, hr, before, d, after, hsplit, hbefore, hoffends⟩

end Declaration

end Federation
