import Federation.Directory.ServiceError
import Federation.Directory.Wire

namespace Federation

namespace Json

theorem canonicalItems_eq_map (items : List Json) :
    canonicalItems items = items.map canonical := by
  induction items with
  | nil => rfl
  | cons v rest ih => simp [canonicalItems, ih]

theorem canonical_ofStrings (xs : List String) : (ofStrings xs).canonical = ofStrings xs := by
  simp [ofStrings, ofList, canonical, canonicalItems_eq_map, Function.comp_def]

theorem canonical_ofOption (o : Option String) :
    (ofOption .string o).canonical = ofOption .string o := by
  cases o <;> rfl

theorem readList_ofList {α : Type} {write : α → Json} {read : Json → Except Mismatch α}
    {xs : List α} (h : ∀ a ∈ xs, read (write a) = .ok a) :
    readList read (ofList write xs) = .ok xs := by
  unfold readList ofList
  induction xs with
  | nil => rfl
  | cons a rest ih =>
    obtain ⟨ha, hrest⟩ := List.forall_mem_cons.mp h
    simp only [List.map_cons, List.mapM_cons, ha, ih hrest]
    rfl

theorem readList_ofStrings (xs : List String) : readList readString (ofStrings xs) = .ok xs :=
  readList_ofList fun _ _ => rfl

theorem readOption_ofOption (o : Option String) :
    readOption readString (ofOption .string o) = .ok o := by
  cases o <;> rfl

end Json

namespace Application

theorem canonical_toJson {a : Application} (h : a.additional = []) :
    a.toJson.canonical = .object [("appId", .string a.appId),
      ("displayName", .string a.displayName), ("id", .string a.id.text)] := by
  simp only [toJson, h, ObjectId.toJson, Json.canonical, Json.canonicalFields, Json.sortFields,
    Json.put, String.reduceLT, String.reduceEq, ↓reduceIte, List.append_nil, List.foldl_cons,
    List.foldl_nil]

theorem ofJson_toJson {a : Application} (h : a.additional = []) :
    ofJson a.toJson.canonical = .ok a := by
  rw [canonical_toJson h]
  obtain ⟨⟨id⟩, appId, displayName, additional⟩ := a
  obtain rfl : additional = [] := h
  rfl

end Application

namespace ServicePrincipal

theorem canonical_toJson {p : ServicePrincipal} (h : p.additional = []) :
    p.toJson.canonical = .object [("appId", .string p.appId),
      ("displayName", Json.ofOption .string p.displayName), ("id", .string p.id.text),
      ("tags", Json.ofStrings p.tags)] := by
  simp only [toJson, h, ObjectId.toJson, Json.canonical, Json.canonicalFields, Json.sortFields,
    Json.put, Json.canonical_ofStrings, Json.canonical_ofOption, String.reduceLT, String.reduceEq,
    ↓reduceIte, List.append_nil, List.foldl_cons, List.foldl_nil]

theorem ofJson_toJson {p : ServicePrincipal} (h : p.additional = []) :
    ofJson p.toJson.canonical = .ok p := by
  rw [canonical_toJson h]
  obtain ⟨⟨id⟩, appId, displayName, tags, additional⟩ := p
  obtain rfl : additional = [] := h
  have htags := Json.readList_ofStrings tags
  have hname := Json.readOption_ofOption displayName
  simp [ofJson, Json.readOpenRecord, Json.checkFields, Json.Slot.check, Wire.idSlot, Wire.appIdSlot,
    Wire.optionalDisplayNameSlot, Wire.tagsSlot, Json.Slot.required, Json.Slot.defaulted,
    Json.Source.get, Json.get?, Json.without, keys, ObjectId.ofJson, Json.readString, Except.map,
    bind, Except.bind, pure, Except.pure, htags, hname]

end ServicePrincipal

namespace Credential

theorem canonical_toJson {c : Credential} (h : c.additional = []) :
    c.toJson.canonical = .object [("audiences", Json.ofStrings c.audiences),
      ("description", Json.ofOption .string c.description), ("id", .string c.id.text),
      ("issuer", .string c.issuer), ("name", .string c.name), ("subject", .string c.subject)] := by
  simp only [toJson, h, ObjectId.toJson, Json.canonical, Json.canonicalFields, Json.sortFields,
    Json.put, Json.canonical_ofStrings, Json.canonical_ofOption, String.reduceLT, String.reduceEq,
    ↓reduceIte, List.append_nil, List.foldl_cons, List.foldl_nil]

theorem ofJson_toJson {c : Credential} (h : c.additional = []) :
    ofJson c.toJson.canonical = .ok c := by
  rw [canonical_toJson h]
  obtain ⟨⟨id⟩, name, issuer, subject, audiences, description, additional⟩ := c
  obtain rfl : additional = [] := h
  have haudiences := Json.readList_ofStrings audiences
  have hdescription := Json.readOption_ofOption description
  simp [ofJson, Json.readOpenRecord, Json.checkFields, Json.Slot.check, Wire.idSlot,
    Wire.optionalNameSlot, Wire.issuerSlot, Wire.subjectSlot, Wire.optionalAudiencesSlot,
    Wire.descriptionSlot, Json.Slot.required, Json.Slot.defaulted, Json.Source.get, Json.get?,
    Json.without, keys, ObjectId.ofJson, Json.readString, Except.map, bind, Except.bind, pure,
    Except.pure, haudiences, hdescription]

end Credential

namespace CredentialSpec

theorem canonical_toJson (c : CredentialSpec) :
    c.toJson.canonical = .object (("audiences", Json.ofStrings c.audiences) ::
      (c.description.toList.map fun d => ("description", .string d)) ++
      [("issuer", .string c.issuer), ("name", .string c.name),
        ("subject", .string c.subject)]) := by
  obtain ⟨name, issuer, subject, audiences, description⟩ := c
  cases description <;>
    simp only [toJson, Json.canonical, Json.canonicalFields, Json.sortFields, Json.put,
      Json.canonical_ofStrings, String.reduceLT, String.reduceEq, ↓reduceIte, Option.toList_none,
      Option.toList_some, List.map_nil, List.map_cons, List.cons_append, List.nil_append,
      List.append_nil, List.foldl_cons, List.foldl_nil]

theorem ofJson_toJson (c : CredentialSpec) : ofJson c.toJson.canonical = .ok c := by
  rw [canonical_toJson]
  obtain ⟨name, issuer, subject, audiences, description⟩ := c
  have haudiences := Json.readList_ofStrings audiences
  cases description <;>
    simp [ofJson, Json.readRecord, Json.checkFields, Json.Slot.check, Wire.nameSlot,
      Wire.issuerSlot, Wire.subjectSlot, Wire.audiencesSlot, Wire.descriptionSlot,
      Json.Slot.required, Json.Slot.defaulted, Json.Source.get, Json.get?, Json.readString,
      Json.readOption, Except.map, bind, Except.bind, pure, Except.pure, haudiences]

end CredentialSpec

namespace ServiceError

theorem canonical_toJson (code message : String) :
    (basic code message).toJson.canonical =
      .object [("code", .string code), ("message", .string message)] := by
  simp only [basic, toJson, Json.canonical, Json.canonicalFields, Json.sortFields, Json.put,
    String.reduceLT, String.reduceEq, ↓reduceIte, Option.toList_none, List.map_nil,
    List.append_nil, List.foldl_cons, List.foldl_nil]

theorem ofJson_toJson (code message : String) :
    ofJson (basic code message).toJson.canonical = .ok (basic code message) := by
  rw [canonical_toJson]
  rfl

end ServiceError

end Federation
