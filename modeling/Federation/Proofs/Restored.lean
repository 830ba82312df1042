import Federation.Proofs.RoundTrip

namespace Federation

open Json.Slot (get_of_read check_of_get)

namespace Json

variable {α : Type} {ms defaults input : List (String × Json)}

def Stands (input defaults : List (String × Json)) (f : String × Json) : Prop :=
  get? f.1 input = some f.2 ∨ get? f.1 input = none ∧ f ∈ defaults

theorem Slot.stands {s : Slot α} {place : Nat} {a : α} {w : Json}
    (h : (Source.fields input).get place s = .ok a) (hread : ∀ {v}, s.read v = .ok a → v = w)
    (habsent : s.absent = some a → (s.key, w) ∈ defaults) : Stands input defaults (s.key, w) := by
  obtain ⟨v, hv, ha⟩ | ⟨hnone, ha⟩ := get_cases h
  · exact .inl (hread ha ▸ hv)
  · exact .inr ⟨hnone, habsent ha⟩

theorem Slot.stands_required {s : Slot α} {place : Nat} {a : α} {w : Json}
    (h : (Source.fields input).get place s = .ok a) (hread : ∀ {v}, s.read v = .ok a → v = w)
    (hs : s.absent = none) : Stands input defaults (s.key, w) :=
  stands h hread fun ha => absurd (hs.symm.trans ha) (Option.some_ne_none a).symm

/-- What is written for a record that keeps the fields it does not understand has all that it was
read from, and beside that only fields that were missing. -/
structure Restores (keys : List String) (defaults input output : List (String × Json)) : Prop where
  agrees : ∀ k v, get? k input = some v → get? k output = some v
  added : ∀ k v, get? k input = none → get? k output = some v → k ∈ keys ∧ (k, v) ∈ defaults

theorem reassembled (hinput : Sorted input)
    (hvalues : ∀ k v, get? k input = some v → v.canonical = v)
    (hkeys : (ms.map (·.1)).Nodup) (hms : ∀ f ∈ ms, Stands input defaults f)
    (hdefaults : ∀ f ∈ defaults, f.2.canonical = f.2) :
    ∃ output, (object (ms ++ without (ms.map (·.1)) input)).canonical = .object output ∧
      Sorted output ∧ (∀ f ∈ ms, get? f.1 output = some f.2) ∧
      without (ms.map (·.1)) output = without (ms.map (·.1)) input ∧
      Restores (ms.map (·.1)) defaults input output := by
  -- The other fields have none of the keys that are understood, so no field hides another.
  have hnodup : ((ms ++ without (ms.map (·.1)) input).map (·.1)).Nodup := by
    rw [List.map_append]
    refine hkeys.append (hinput.without _).nodup_keys fun k hk hother => ?_
    obtain ⟨f, hf, rfl⟩ := List.mem_map.mp hother
    simp [without, hk] at hf
  obtain ⟨output, houtput, hsorted, hget⟩ := canonical_object _ hnodup
  have hunderstood : ∀ f ∈ ms, get? f.1 output = some f.2 := by
    intro f hf
    have hcanonical : f.2.canonical = f.2 := by
      obtain hgiven | ⟨-, hdefault⟩ := hms f hf
      · exact hvalues _ _ hgiven
      · exact hdefaults f hdefault
    rw [hget, get?_append, get?_of_mem hkeys hf, Option.some_or, Option.map_some, hcanonical]
  have hother : ∀ k, k ∉ ms.map (·.1) → get? k output = get? k input := by
    intro k hk
    have hnone : get? k ms = none := get?_eq_none_iff.mpr fun f hf he =>
      hk (List.mem_map.mpr ⟨f, hf, he⟩)
    rw [hget, get?_append, hnone, Option.none_or, get?_without, if_neg hk]
    cases hv : get? k input with
    | none => rfl
    | some v => rw [Option.map_some, hvalues k v hv]
  refine ⟨output, houtput, hsorted, hunderstood, ?_, fun k v hv => ?_, fun k v hv hout => ?_⟩
  · refine (hsorted.without _).ext (hinput.without _) fun k => ?_
    rw [get?_without, get?_without]
    split
    · rfl
    · rename_i hk
      exact hother k hk
  · by_cases hk : k ∈ ms.map (·.1)
    · obtain ⟨f, hf, rfl⟩ := List.mem_map.mp hk
      obtain hgiven | ⟨hnone, -⟩ := hms f hf
      · rw [hunderstood f hf, ← hgiven, hv]
      · cases hnone.symm.trans hv
    · rw [hother k hk, hv]
  · by_cases hk : k ∈ ms.map (·.1)
    · refine ⟨hk, ?_⟩
      obtain ⟨f, hf, rfl⟩ := List.mem_map.mp hk
      rw [hunderstood f hf] at hout
      obtain rfl := Option.some.inj hout
      obtain hgiven | ⟨-, hdefault⟩ := hms f hf
      · cases hv.symm.trans hgiven
      · exact hdefault
    · rw [hother k hk, hv] at hout
      cases hout

theorem object_of_readOpenRecord {label : String}
    {checks : List (String × Json → Except Mismatch Unit)}
    {build : List (String × Json) → Except Mismatch α} {v : Json} {a : α}
    (h : readOpenRecord label checks build v = .ok a) :
    ∃ fs, v = .object fs ∧ build fs = .ok a := by
  unfold readOpenRecord at h
  split at h
  · obtain ⟨-, -, h⟩ := Declaration.bind_ok h
    exact ⟨_, rfl, h⟩
  · cases h

/-- Whatever JSON a value was read from, it is read back from what is written for it. -/
def RoundTrips (read : Json → Except Mismatch α) (write : α → Json) : Prop :=
  ∀ (v : Json) (a : α), read v.canonical = .ok a → read (write a).canonical = .ok a

/-- Whatever object a value was read from, it keeps the fields under other keys than these, and what
is written for it restores the object. -/
def PassesThrough (read : Json → Except Mismatch α) (write : α → Json)
    (additional : α → List (String × Json)) (keys : List String)
    (defaults : List (String × Json)) : Prop :=
  ∀ (v : Json) (a : α), read v.canonical = .ok a →
    ∃ input output, v.canonical = .object input ∧ (write a).canonical = .object output ∧
      (∀ k, get? k (additional a) = if k ∈ keys then none else get? k input) ∧
      Restores keys defaults input output

/-- A record that is written as the fields under some keys and those that it keeps beside them. -/
structure Keeps (read : Json → Except Mismatch α) (fields additional : α → List (String × Json))
    (keys : List String) (defaults : List (String × Json)) : Prop where
  keyed : ∀ a, (fields a).map (·.1) = keys
  nodup : keys.Nodup
  canonical : ∀ f ∈ defaults, f.2.canonical = f.2
  taken : ∀ v a, read v = .ok a → ∃ input, v = .object input ∧
    (∀ f ∈ fields a, Stands input defaults f) ∧ additional a = without keys input
  given : ∀ output a, Sorted output → (∀ f ∈ fields a, get? f.1 output = some f.2) →
    without keys output = additional a → read (.object output) = .ok a

section Keeps

variable {read : Json → Except Mismatch α} {fields additional : α → List (String × Json)}
  {keys : List String}

theorem Keeps.restores (h : Keeps read fields additional keys defaults) {v : Json} {a : α}
    (ha : read v.canonical = .ok a) :
    ∃ input output, v.canonical = .object input ∧ additional a = without keys input ∧
      (object (fields a ++ additional a)).canonical = .object output ∧
      read (.object output) = .ok a ∧ Restores keys defaults input output := by
  obtain ⟨input, hinput, hstands, hother⟩ := h.taken _ a ha
  obtain ⟨hsorted, hvalues⟩ := sorted_of_canonical hinput
  have hnodup : ((fields a).map (·.1)).Nodup := (h.keyed a).symm ▸ h.nodup
  obtain ⟨output, houtput, hsorted', hfields, hwithout, hrestores⟩ :=
    reassembled hsorted hvalues hnodup hstands h.canonical
  rw [h.keyed a] at houtput hwithout hrestores
  rw [← hother] at houtput hwithout
  exact ⟨input, output, hinput, hother, houtput, h.given output a hsorted' hfields hwithout,
    hrestores⟩

theorem Keeps.roundTrips (h : Keeps read fields additional keys defaults) :
    RoundTrips read fun a => .object (fields a ++ additional a) := by
  intro v a ha
  obtain ⟨input, output, -, -, houtput, hread, -⟩ := h.restores ha
  exact houtput ▸ hread

theorem Keeps.passesThrough (h : Keeps read fields additional keys defaults) :
    PassesThrough read (fun a => .object (fields a ++ additional a)) additional keys defaults := by
  intro v a ha
  obtain ⟨input, output, hinput, hother, houtput, -, hrestores⟩ := h.restores ha
  refine ⟨input, output, hinput, houtput, fun k => ?_, hrestores⟩
  rw [hother, get?_without]

end Keeps

end Json

open Json (Keeps object_of_readOpenRecord readOpenRecord_object)
open Json.Slot (stands stands_required)

namespace Application

def fields (a : Application) : List (String × Json) :=
  [("id", a.id.toJson), ("appId", .string a.appId), ("displayName", .string a.displayName)]

def defaults : List (String × Json) := [("displayName", .string "")]

theorem keeps : Keeps ofJson fields (·.additional) keys defaults where
  keyed _ := rfl
  nodup := by decide
  canonical := by simp [defaults, Json.canonical]
  taken v a h := by
    obtain ⟨input, rfl, hbuild⟩ := object_of_readOpenRecord h
    obtain ⟨id, hid, h⟩ := Declaration.bind_ok hbuild
    obtain ⟨appId, happId, h⟩ := Declaration.bind_ok h
    obtain ⟨displayName, hname, h⟩ := Declaration.bind_ok h
    cases h
    refine ⟨input, rfl, ?_, rfl⟩
    simp only [fields, List.forall_mem_cons]
    exact ⟨stands_required hid ObjectId.ofJson_eq_ok_iff.mp rfl,
      stands_required happId Json.readString_eq_ok_iff.mp rfl,
      stands hname Json.readString_eq_ok_iff.mp fun h => by cases h; exact .head _,
      List.forall_mem_nil _⟩
  given output a hsorted hfields hother := by
    simp only [fields, List.forall_mem_cons] at hfields
    obtain ⟨hid, happId, hname, -⟩ := hfields
    have hid := get_of_read (s := Wire.idSlot) 0 hid rfl
    have happId := get_of_read (s := Wire.appIdSlot) 1 happId rfl
    have hname := get_of_read (s := Wire.displayNameSlot) 2 hname rfl
    have hchecks : ∀ check ∈ [Wire.idSlot.check, Wire.appIdSlot.check, Wire.displayNameSlot.check],
        ∀ f ∈ output, check f = .ok () := by
      simp only [List.forall_mem_cons]
      exact ⟨check_of_get hsorted hid, check_of_get hsorted happId,
        check_of_get hsorted hname, List.forall_mem_nil _⟩
    rw [ofJson, readOpenRecord_object hchecks]
    simp only [hid, happId, hname, hother]
    rfl

end Application

namespace ServicePrincipal

def fields (p : ServicePrincipal) : List (String × Json) :=
  [("id", p.id.toJson), ("appId", .string p.appId),
    ("displayName", Json.ofOption .string p.displayName), ("tags", Json.ofStrings p.tags)]

def defaults : List (String × Json) := [("displayName", .null), ("tags", .array [])]

theorem keeps : Keeps ofJson fields (·.additional) keys defaults where
  keyed _ := rfl
  nodup := by decide
  canonical := by simp [defaults, Json.canonical, Json.canonicalItems]
  taken v p h := by
    obtain ⟨input, rfl, hbuild⟩ := object_of_readOpenRecord h
    obtain ⟨id, hid, h⟩ := Declaration.bind_ok hbuild
    obtain ⟨appId, happId, h⟩ := Declaration.bind_ok h
    obtain ⟨displayName, hname, h⟩ := Declaration.bind_ok h
    obtain ⟨tags, htags, h⟩ := Declaration.bind_ok h
    cases h
    refine ⟨input, rfl, ?_, rfl⟩
    simp only [fields, List.forall_mem_cons]
    exact ⟨stands_required hid ObjectId.ofJson_eq_ok_iff.mp rfl,
      stands_required happId Json.readString_eq_ok_iff.mp rfl,
      stands hname Json.readStringOption_eq_ok_iff.mp fun h => by cases h; exact .head _,
      stands htags Json.readStrings_eq_ok_iff.mp fun h => by cases h; exact .tail _ (.head _),
      List.forall_mem_nil _⟩
  given output p hsorted hfields hother := by
    simp only [fields, List.forall_mem_cons] at hfields
    obtain ⟨hid, happId, hname, htags, -⟩ := hfields
    have hid := get_of_read (s := Wire.idSlot) 0 hid rfl
    have happId := get_of_read (s := Wire.appIdSlot) 1 happId rfl
    have hname := get_of_read (s := Wire.optionalDisplayNameSlot) 2 hname
      (Json.readOption_ofOption p.displayName)
    have htags := get_of_read (s := Wire.tagsSlot) 3 htags (Json.readList_ofStrings p.tags)
    have hchecks : ∀ check ∈ [Wire.idSlot.check, Wire.appIdSlot.check,
        Wire.optionalDisplayNameSlot.check, Wire.tagsSlot.check],
        ∀ f ∈ output, check f = .ok () := by
      simp only [List.forall_mem_cons]
      exact ⟨check_of_get hsorted hid, check_of_get hsorted happId, check_of_get hsorted hname,
        check_of_get hsorted htags, List.forall_mem_nil _⟩
    rw [ofJson, readOpenRecord_object hchecks]
    simp only [hid, happId, hname, htags, hother]
    rfl

end ServicePrincipal

namespace Credential

def fields (c : Credential) : List (String × Json) :=
  [("id", c.id.toJson), ("name", .string c.name), ("issuer", .string c.issuer),
    ("subject", .string c.subject), ("audiences", Json.ofStrings c.audiences),
    ("description", Json.ofOption .string c.description)]

def defaults : List (String × Json) :=
  [("name", .string ""), ("audiences", .array []), ("description", .null)]

theorem keeps : Keeps ofJson fields (·.additional) keys defaults where
  keyed _ := rfl
  nodup := by decide
  canonical := by simp [defaults, Json.canonical, Json.canonicalItems]
  taken v c h := by
    obtain ⟨input, rfl, hbuild⟩ := object_of_readOpenRecord h
    obtain ⟨id, hid, h⟩ := Declaration.bind_ok hbuild
    obtain ⟨name, hname, h⟩ := Declaration.bind_ok h
    obtain ⟨issuer, hissuer, h⟩ := Declaration.bind_ok h
    obtain ⟨subject, hsubject, h⟩ := Declaration.bind_ok h
    obtain ⟨audiences, haudiences, h⟩ := Declaration.bind_ok h
    obtain ⟨description, hdescription, h⟩ := Declaration.bind_ok h
    cases h
    refine ⟨input, rfl, ?_, rfl⟩
    simp only [fields, List.forall_mem_cons]
    exact ⟨stands_required hid ObjectId.ofJson_eq_ok_iff.mp rfl,
      stands hname Json.readString_eq_ok_iff.mp fun h => by cases h; exact .head _,
      stands_required hissuer Json.readString_eq_ok_iff.mp rfl,
      stands_required hsubject Json.readString_eq_ok_iff.mp rfl,
      stands haudiences Json.readStrings_eq_ok_iff.mp fun h => by cases h; exact .tail _ (.head _),
      stands hdescription Json.readStringOption_eq_ok_iff.mp fun h => by
        cases h
        exact .tail _ (.tail _ (.head _)),
      List.forall_mem_nil _⟩
  given output c hsorted hfields hother := by
    simp only [fields, List.forall_mem_cons] at hfields
    obtain ⟨hid, hname, hissuer, hsubject, haudiences, hdescription, -⟩ := hfields
    have hid := get_of_read (s := Wire.idSlot) 0 hid rfl
    have hname := get_of_read (s := Wire.optionalNameSlot) 1 hname rfl
    have hissuer := get_of_read (s := Wire.issuerSlot) 2 hissuer rfl
    have hsubject := get_of_read (s := Wire.subjectSlot) 3 hsubject rfl
    have haudiences := get_of_read (s := Wire.optionalAudiencesSlot) 4 haudiences
      (Json.readList_ofStrings c.audiences)
    have hdescription := get_of_read (s := Wire.descriptionSlot) 5 hdescription
      (Json.readOption_ofOption c.description)
    have hchecks : ∀ check ∈ [Wire.idSlot.check, Wire.optionalNameSlot.check,
        Wire.issuerSlot.check, Wire.subjectSlot.check, Wire.optionalAudiencesSlot.check,
        Wire.descriptionSlot.check], ∀ f ∈ output, check f = .ok () := by
      simp only [List.forall_mem_cons]
      exact ⟨check_of_get hsorted hid, check_of_get hsorted hname, check_of_get hsorted hissuer,
        check_of_get hsorted hsubject, check_of_get hsorted haudiences,
        check_of_get hsorted hdescription, List.forall_mem_nil _⟩
    rw [ofJson, readOpenRecord_object hchecks]
    simp only [hid, hname, hissuer, hsubject, haudiences, hdescription, hother]
    rfl

end Credential

/-- Objects of the directory, declarations, errors of the service and reports are read back from
what is written for them; a report is if its identifier and its times are. Objects of the directory
keep what they do not understand, and restore what they were read from. -/
theorem wire_round_trips :
    (Json.RoundTrips Application.ofJson Application.toJson ∧
      Json.RoundTrips ServicePrincipal.ofJson ServicePrincipal.toJson ∧
      Json.RoundTrips Credential.ofJson Credential.toJson ∧
      Json.RoundTrips CredentialSpec.ofJson CredentialSpec.toJson ∧
      Json.RoundTrips WorkloadIdentity.ofJson WorkloadIdentity.toJson ∧
      Json.RoundTrips ServiceError.ofJson ServiceError.toJson ∧
      Json.RoundTrips Change.ofJson Change.toJson ∧
      Json.RoundTrips IdentityFailure.ofJson IdentityFailure.toJson ∧
      ∀ (v : Json) (r : Report), Report.ofJson v.canonical = .ok r → r.Stamped →
        Report.ofJson r.toJson.canonical = .ok r) ∧
    Json.PassesThrough Application.ofJson Application.toJson (·.additional) Application.keys
      Application.defaults ∧
    Json.PassesThrough ServicePrincipal.ofJson ServicePrincipal.toJson (·.additional)
      ServicePrincipal.keys ServicePrincipal.defaults ∧
    Json.PassesThrough Credential.ofJson Credential.toJson (·.additional) Credential.keys
      Credential.defaults :=
  ⟨⟨Application.keeps.roundTrips, ServicePrincipal.keeps.roundTrips, Credential.keeps.roundTrips,
    fun _ c _ => CredentialSpec.ofJson_toJson c, fun _ i _ => WorkloadIdentity.ofJson_toJson i,
    fun _ _ h => ServiceError.ofJson_toJson_of_told (ServiceError.told_of_ofJson h),
    fun _ c _ => Change.ofJson_toJson c, fun _ f _ => IdentityFailure.ofJson_toJson f,
    fun _ _ _ h => Report.ofJson_toJson h⟩,
    Application.keeps.passesThrough, ServicePrincipal.keeps.passesThrough,
    Credential.keeps.passesThrough⟩

namespace Sample

def application : Json :=
  .object [("signInAudience", .array [.null]), ("appId", .string "a"), ("id", .string "o")]

def report : Json :=
  .object [("run_id", .string "12345678-9abc-4def-8123-456789abcdef"),
    ("action", .string "provision"), ("dry_run", .bool true),
    ("started_at", .string "2024-05-06T07:08:09.5Z"), ("finished_at", .null),
    ("changes", .array [.object [("kind", .string "identity_absent"),
      ("display_name", .string "ledger")]]),
    ("errors", .array [])]

end Sample

theorem wire_round_trips_sample :
    (∃ a output, Application.ofJson Sample.application.canonical = .ok a ∧
      a.additional = [("signInAudience", .array [.null])] ∧
      a.toJson.canonical = .object output ∧ Application.ofJson (.object output) = .ok a ∧
      Json.get? "signInAudience" output = some (.array [.null])) ∧
    ∃ r, Report.ofJson Sample.report.canonical = .ok r ∧ r.Stamped ∧
      Report.ofJson r.toJson.canonical = .ok r := by
  obtain ⟨⟨happlication, -, -, -, -, -, -, -, hreport⟩, hpasses, -⟩ := wire_round_trips
  constructor
  · have hread : Application.ofJson Sample.application.canonical =
        .ok ⟨⟨"o"⟩, "a", "", [("signInAudience", .array [.null])]⟩ := by decide +kernel
    obtain ⟨input, output, hinput, houtput, -, hrestores⟩ := hpasses _ _ hread
    refine ⟨_, output, hread, rfl, houtput, ?_, ?_⟩
    · rw [← houtput]
      exact happlication _ _ hread
    · have hcanonical : Sample.application.canonical = .object [("appId", .string "a"),
          ("id", .string "o"), ("signInAudience", .array [.null])] := by decide +kernel
      obtain rfl := Json.object.inj (hcanonical.symm.trans hinput)
      exact hrestores.agrees _ _ rfl
  · have hread : Report.ofJson Sample.report.canonical =
        .ok ⟨⟨0x123456789abc4def8123456789abcdef⟩, .provision, true, false,
          ⟨1714979289, 500000000⟩, none, [.identityAbsent "ledger"], []⟩ := by decide +kernel
    have hstamped : Report.Stamped ⟨⟨0x123456789abc4def8123456789abcdef⟩, .provision, true, false,
        ⟨1714979289, 500000000⟩, none, [.identityAbsent "ledger"], []⟩ :=
      ⟨by decide +kernel, by decide +kernel, nofun⟩
    exact ⟨_, hread, hstamped, hreport _ _ hread hstamped⟩

end Federation
