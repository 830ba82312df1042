import Mathlib.Data.List.TakeWhile
import Federation.Proofs.Operation

namespace Federation

namespace Filter

/-- A quoted literal behind its opening quote, with its value and what is left: two quotes stand for
one, and a quote that no other follows is the closing one. -/
inductive Literal : List Char → List Char → List Char → Prop
  | close {rest : List Char} (h : rest.head? ≠ some '\'') : Literal ('\'' :: rest) [] rest
  | quote {cs v rest : List Char} (h : Literal cs v rest) :
    Literal ('\'' :: '\'' :: cs) ('\'' :: v) rest
  | plain {c : Char} {cs v rest : List Char} (hc : c ≠ '\'') (h : Literal cs v rest) :
    Literal (c :: cs) (c :: v) rest

inductive Condition : List Char → String → String → List Char → Prop
  | intro {field literal v rest : List Char} (hfield : ' ' ∉ field) (h : Literal literal v rest) :
    Condition (field ++ ' ' :: 'e' :: 'q' :: ' ' :: '\'' :: literal) (String.ofList field)
      (String.ofList v) rest

theorem literal_of_readLiteral {cs v rest : List Char} (h : readLiteral cs = some (v, rest)) :
    Literal cs v rest := by
  fun_induction readLiteral cs generalizing v with
  | case1 => cases h
  | case2 cs ih =>
    obtain ⟨⟨w, left⟩, hw, he⟩ := Option.map_eq_some_iff.mp h
    obtain ⟨rfl, rfl⟩ := Prod.mk.inj he
    exact .quote (ih hw)
  | case3 cs hcs =>
    obtain ⟨rfl, rfl⟩ := Prod.mk.inj (Option.some.inj h)
    refine .close fun hhead => ?_
    obtain ⟨tail, rfl⟩ := List.head?_eq_some_iff.mp hhead
    exact hcs tail rfl
  | case4 c cs _ hc ih =>
    obtain ⟨⟨w, left⟩, hw, he⟩ := Option.map_eq_some_iff.mp h
    obtain ⟨rfl, rfl⟩ := Prod.mk.inj he
    exact .plain hc (ih hw)

theorem Literal.eq_escape {cs v rest : List Char} (h : Literal cs v rest) :
    cs = escape v ++ '\'' :: rest ∧ rest.head? ≠ some '\'' := by
  induction h with
  | close hrest => exact ⟨rfl, hrest⟩
  | quote _ ih =>
    obtain ⟨rfl, hrest⟩ := ih
    exact ⟨by simp [escape], hrest⟩
  | plain hc _ ih =>
    obtain ⟨rfl, hrest⟩ := ih
    exact ⟨by simp [escape, hc], hrest⟩

theorem readLiteral_eq_some_iff {cs v rest : List Char} :
    readLiteral cs = some (v, rest) ↔ Literal cs v rest := by
  refine ⟨literal_of_readLiteral, fun h => ?_⟩
  obtain ⟨rfl, hrest⟩ := h.eq_escape
  exact readLiteral_escape v hrest

theorem span_field {field : List Char} (hfield : ' ' ∉ field) (rest : List Char) :
    (field ++ ' ' :: rest).takeWhile (· ≠ ' ') = field ∧
      (field ++ ' ' :: rest).dropWhile (· ≠ ' ') = ' ' :: rest := by
  have hall : ∀ c ∈ field, decide (c ≠ ' ') = true := fun c hc =>
    decide_eq_true fun he => hfield (he ▸ hc)
  rw [List.takeWhile_append_of_pos hall, List.dropWhile_append_of_pos hall]
  simp

theorem scan_eq_some_iff {cs : List Char} {field value : String} {rest : List Char} :
    scan cs = some (field, value, rest) ↔ Condition cs field value rest := by
  constructor
  · intro h
    unfold scan at h
    split at h
    · rename_i literal hdrop
      obtain ⟨⟨v, left⟩, hv, he⟩ := Option.map_eq_some_iff.mp h
      obtain ⟨rfl, hmore⟩ := Prod.mk.inj he
      obtain ⟨rfl, rfl⟩ := Prod.mk.inj hmore
      have hfield : ' ' ∉ cs.takeWhile (· ≠ ' ') := fun hmem => by
        simpa using List.mem_takeWhile_imp hmem
      have hcs := List.takeWhile_append_dropWhile (p := (· ≠ ' ')) (l := cs)
      rw [hdrop] at hcs
      have hcondition := Condition.intro hfield (literal_of_readLiteral hv)
      rwa [hcs] at hcondition
    · cases h
  · rintro ⟨hfield, hliteral⟩
    obtain ⟨htake, hdrop⟩ := span_field hfield _
    unfold scan
    rw [hdrop, htake]
    simp [readLiteral_eq_some_iff.mpr hliteral]

theorem Condition.eq_text {f : Filter} {cs rest : List Char}
    (h : Condition cs f.field f.value rest) :
    cs = f.text.toList ++ rest ∧ rest.head? ≠ some '\'' := by
  generalize hname : f.field = name at h
  generalize hvalue : f.value = value at h
  obtain ⟨hfield, hliteral⟩ := h
  obtain ⟨rfl, hrest⟩ := hliteral.eq_escape
  refine ⟨?_, hrest⟩
  simp [text, quote, hname, hvalue]

/-- Nothing breaks out of a condition. The reader reads what the grammar has: from the text of a
condition just its field and its value, whatever follows that is no quote, and these from no other
text. So the text tells the condition. -/
theorem text_self_delimiting :
    (∀ cs field value rest,
      scan cs = some (field, value, rest) ↔ Condition cs field value rest) ∧
    (∀ f : Filter, scan f.text.toList = some (f.field, f.value, [])) ∧
    (∀ (f : Filter) (rest : List Char), rest.head? ≠ some '\'' →
      scan (f.text.toList ++ rest) = some (f.field, f.value, rest)) ∧
    (∀ (f : Filter) (cs rest : List Char), scan cs = some (f.field, f.value, rest) →
      cs = f.text.toList ++ rest ∧ rest.head? ≠ some '\'') ∧
    ∀ f g : Filter, f.text = g.text → f = g := by
  refine ⟨fun _ _ _ _ => scan_eq_some_iff, fun f => ?_, fun f _ h => scan_text f h,
    fun f cs rest h => (scan_eq_some_iff.mp h).eq_text, fun f g h => ?_⟩
  · have hscan : scan (f.text.toList ++ []) = some (f.field, f.value, []) := scan_text f nofun
    rwa [List.append_nil] at hscan
  · have hread := congrArg ofText h
    rw [ofText_text, ofText_text] at hread
    exact Option.some.inj hread

/-- A value that is all quotes, and one that tries to go on with a condition of its own. -/
theorem text_self_delimiting_forged :
    let quotes : Filter := .displayName "''"
    let forged : Filter := .subject "' or subject eq 'repo:acme/payments"
    scan (quotes.text.toList ++ " and x".toList) = some ("displayName", "''", " and x".toList) ∧
    scan forged.text.toList = some ("subject", "' or subject eq 'repo:acme/payments", []) ∧
    forged.text ≠ (Filter.subject "").text := by
  obtain ⟨-, hwhole, hrest, -, hinjective⟩ := text_self_delimiting
  refine ⟨hrest _ _ (by decide), hwhole _, fun h => ?_⟩
  exact absurd (hinjective _ _ h) (by decide)

end Filter

end Federation
