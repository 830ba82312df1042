import Federation.Command.Text
import Federation.Text.Split
import Mathlib

namespace Federation.Text

section Split

variable {sep : Char} {cs p : List Char}

theorem splitAt_ne_nil (sep : Char) (cs : List Char) : splitAt sep cs ≠ [] := by
  cases cs with
  | nil => exact List.cons_ne_nil _ _
  | cons c cs =>
    rw [splitAt]
    split
    · exact List.cons_ne_nil _ _
    · split <;> exact List.cons_ne_nil _ _

theorem splitAt_cons_other {c : Char} (hc : c ≠ sep) (cs : List Char) :
    ∃ p ps, splitAt sep cs = p :: ps ∧ splitAt sep (c :: cs) = (c :: p) :: ps := by
  obtain ⟨p, ps, h⟩ := List.exists_cons_of_ne_nil (splitAt_ne_nil sep cs)
  exact ⟨p, ps, h, by rw [splitAt, if_neg hc, h]⟩

theorem splitAt_append (cs ds : List Char) :
    splitAt sep (cs ++ sep :: ds) = splitAt sep cs ++ splitAt sep ds := by
  induction cs with
  | nil => simp [splitAt]
  | cons c cs ih =>
    by_cases hc : c = sep
    · simp [splitAt, hc, ih]
    · obtain ⟨p, ps, hp, hcons⟩ := splitAt_cons_other hc cs
      rw [List.cons_append, splitAt, if_neg hc, ih, hcons, hp]
      rfl

theorem splitAt_of_not_mem (h : sep ∉ cs) : splitAt sep cs = [cs] := by
  induction cs with
  | nil => rfl
  | cons c cs ih =>
    obtain ⟨hc, hcs⟩ := List.ne_and_not_mem_of_not_mem_cons h
    rw [splitAt, if_neg hc.symm, ih hcs]

theorem not_mem_of_mem_splitAt (h : p ∈ splitAt sep cs) : sep ∉ p := by
  induction cs generalizing p with
  | nil =>
    rw [List.mem_singleton.mp h]
    exact List.not_mem_nil
  | cons c cs ih =>
    by_cases hc : c = sep
    · rw [splitAt, if_pos hc] at h
      obtain rfl | h := List.mem_cons.mp h
      · exact List.not_mem_nil
      · exact ih h
    · obtain ⟨q, ps, hq, hcons⟩ := splitAt_cons_other hc cs
      rw [hcons] at h
      obtain rfl | h := List.mem_cons.mp h
      · exact List.not_mem_cons_of_ne_of_not_mem (Ne.symm hc) (ih (hq ▸ List.mem_cons_self))
      · exact ih (hq ▸ List.mem_cons_of_mem _ h)

theorem length_splitAt (sep : Char) (cs : List Char) :
    (splitAt sep cs).length = cs.count sep + 1 := by
  induction cs with
  | nil => rfl
  | cons c cs ih =>
    by_cases hc : c = sep
    · simp [splitAt, hc, ih]
    · obtain ⟨p, ps, hp, hcons⟩ := splitAt_cons_other hc cs
      rw [hp] at ih
      rw [hcons, List.count_cons_of_ne hc, ← ih]
      rfl

theorem head?_splitAt (sep : Char) (cs : List Char) :
    (splitAt sep cs).head? = some (cs.takeWhile (· ≠ sep)) := by
  induction cs with
  | nil => rfl
  | cons c cs ih =>
    by_cases hc : c = sep
    · simp [splitAt, hc]
    · obtain ⟨p, ps, hp, hcons⟩ := splitAt_cons_other hc cs
      rw [hp] at ih
      rw [hcons, List.takeWhile_cons_of_pos (by simpa using hc)]
      simpa using ih

end Split

def breaks (t : String) : Nat := t.toList.count '\n'

def IsLine (t : String) : Prop := '\n' ∉ t.toList

instance (t : String) : Decidable (IsLine t) := inferInstanceAs (Decidable ('\n' ∉ t.toList))

def AreLines (ts : List String) : Prop := ∀ t ∈ ts, IsLine t

instance (ts : List String) : Decidable (AreLines ts) :=
  inferInstanceAs (Decidable (∀ t ∈ ts, IsLine t))

@[simp] theorem areLines_nil : AreLines [] := List.forall_mem_nil _

@[simp] theorem areLines_cons {t : String} {ts : List String} :
    AreLines (t :: ts) ↔ IsLine t ∧ AreLines ts := List.forall_mem_cons

/-- The lines that a text takes up when it is written as an entry of its own. -/
def pieces (t : String) : List String := (splitAt '\n' t.toList).map String.ofList

/-- The lines of a text in which every line is ended. -/
def linesOf (t : String) : List String := (pieces t).dropLast

/-- What a line begins with after the spaces. -/
def mark (line : String) : Option Char := line.toList.find? (· ≠ ' ')

variable {t u : String} {ls : List String}

@[simp] theorem breaks_append (t u : String) : breaks (t ++ u) = breaks t + breaks u := by
  simp [breaks]

theorem breaks_eq_zero_iff : breaks t = 0 ↔ IsLine t := List.count_eq_zero

theorem sum_breaks_eq_zero_iff {ts : List String} : (ts.map breaks).sum = 0 ↔ AreLines ts := by
  simp [List.sum_eq_zero_iff_forall_eq_nat, AreLines, breaks_eq_zero_iff]

@[simp] theorem isLine_append : IsLine (t ++ u) ↔ IsLine t ∧ IsLine u := by
  simp [IsLine, not_or]

theorem isLine_of_mem_pieces (h : u ∈ pieces t) : IsLine u := by
  obtain ⟨p, hp, rfl⟩ := List.mem_map.mp h
  rw [IsLine, String.toList_ofList]
  exact not_mem_of_mem_splitAt hp

theorem pieces_eq_singleton_iff : pieces t = [t] ↔ IsLine t := by
  constructor
  · intro h
    exact isLine_of_mem_pieces (h ▸ List.mem_singleton_self t)
  · intro h
    rw [pieces, splitAt_of_not_mem h, List.map_singleton, String.ofList_toList]

theorem length_pieces (t : String) : (pieces t).length = breaks t + 1 := by
  rw [pieces, List.length_map, length_splitAt, breaks]

theorem linesOf_unlines (ls : List String) : linesOf (unlines ls) = ls.flatMap pieces := by
  induction ls with
  | nil => rfl
  | cons l ls ih =>
    have hsplit : pieces (unlines (l :: ls)) = pieces l ++ pieces (unlines ls) := by
      have htext : (unlines (l :: ls)).toList = l.toList ++ '\n' :: (unlines ls).toList := by
        simp [unlines, String.join_cons]
      simp only [pieces, htext, splitAt_append, List.map_append]
    have hne : pieces (unlines ls) ≠ [] := by simpa [pieces] using splitAt_ne_nil _ _
    rw [linesOf, hsplit, List.dropLast_append_of_ne_nil hne, List.flatMap_cons, ← ih]
    rfl

theorem linesOf_unlines_eq_iff : linesOf (unlines ls) = ls ↔ AreLines ls := by
  rw [linesOf_unlines]
  constructor
  · intro h l hl
    rw [← h] at hl
    obtain ⟨t, -, ht⟩ := List.mem_flatMap.mp hl
    exact isLine_of_mem_pieces ht
  · intro h
    induction ls with
    | nil => rfl
    | cons l ls ih =>
      obtain ⟨hl, hls⟩ := List.forall_mem_cons.mp h
      rw [List.flatMap_cons, pieces_eq_singleton_iff.mpr hl, ih hls]
      rfl

theorem mark_of_start {x : Char} (hline : IsLine t) (hmark : mark t = some x) (u : String) :
    (pieces (t ++ u)).head?.bind mark = some x := by
  have htake : (t ++ u).toList.takeWhile (· ≠ '\n') =
      t.toList ++ u.toList.takeWhile (· ≠ '\n') := by
    rw [String.toList_append]
    refine List.takeWhile_append_of_pos fun c hc => ?_
    simp only [ne_eq, decide_not, Bool.not_eq_true', decide_eq_false_iff_not]
    rintro rfl
    exact hline hc
  rw [mark] at hmark
  rw [pieces, List.head?_map, head?_splitAt, htake, Option.map_some, Option.bind_some, mark,
    String.toList_ofList, List.find?_append, hmark, Option.some_or]

end Federation.Text

namespace Federation

open Text

def Change.texts : Change → List String
  | .applicationCreated displayName id | .principalCreated displayName id =>
    displayName :: (id.map ObjectId.text).toList
  | .applicationUnchanged displayName id | .applicationDeleted displayName id
  | .principalUnchanged displayName id | .principalDeleted displayName id => [displayName, id.text]
  | .credentialAdded displayName name _ subject id =>
    displayName :: name :: subject :: (id.map ObjectId.text).toList
  | .credentialUnchanged displayName name id | .credentialDeleted displayName name id =>
    [displayName, name, id.text]
  | .identityAbsent displayName => [displayName]

namespace Change

def Kind.lead : Kind → String
  | .applicationCreated => "+ application "
  | .applicationUnchanged => "= application "
  | .applicationDeleted => "- application "
  | .principalCreated => "  + service principal "
  | .principalUnchanged => "  = service principal "
  | .principalDeleted => "  - service principal "
  | .credentialAdded => "  + credential "
  | .credentialUnchanged => "  = credential "
  | .credentialDeleted => "  - credential "
  | .identityAbsent => "= "

def Kind.sign : Kind → Char
  | .applicationCreated | .principalCreated | .credentialAdded => '+'
  | .applicationDeleted | .principalDeleted | .credentialDeleted => '-'
  | .applicationUnchanged | .principalUnchanged | .credentialUnchanged | .identityAbsent => '='

theorem Kind.sign_eq_plus_iff (k : Kind) :
    k.sign = '+' ↔ k ∈ [applicationCreated, principalCreated, credentialAdded] := by
  cases k <;> decide

theorem Kind.sign_eq_minus_iff (k : Kind) :
    k.sign = '-' ↔ k ∈ [applicationDeleted, principalDeleted, credentialDeleted] := by
  cases k <;> decide

theorem sign_eq_equals_iff (c : Change) : c.kind.sign = '=' ↔ c.isMutation = false := by
  cases c <;> simp [kind, Kind.sign, isMutation]

theorem Kind.isLine_lead (k : Kind) : IsLine k.lead := by cases k <;> decide

theorem Kind.mark_lead (k : Kind) : mark k.lead = some k.sign := by cases k <;> decide

theorem breaks_idSuffix (id : Option ObjectId) :
    breaks (idSuffix id) = ((id.map ObjectId.text).toList.map breaks).sum := by
  have hopen : breaks " (" = 0 := by decide
  have hclose : breaks ")" = 0 := by decide
  cases id with
  | none => decide
  | some id => simp [idSuffix, hopen, hclose]

/-- What stands between the texts has no line ends. -/
theorem line_eq (c : Change) :
    ∃ rest, c.line = c.kind.lead ++ rest ∧ breaks rest = (c.texts.map breaks).sum := by
  have hslash : breaks "/" = 0 := by decide
  have hopen : breaks " [" = 0 := by decide
  have hclose : breaks "]" = 0 := by decide
  have habsent : breaks " absent" = 0 := by decide
  cases c with
  | applicationCreated _ id | principalCreated _ id =>
    refine ⟨_, String.append_assoc .., ?_⟩
    simp [texts, breaks_idSuffix]
  | applicationUnchanged _ id | applicationDeleted _ id | principalUnchanged _ id
  | principalDeleted _ id =>
    refine ⟨_, String.append_assoc .., ?_⟩
    simp [texts, breaks_idSuffix]
  | credentialAdded displayName name _ subject id =>
    refine ⟨displayName ++ ("/" ++ (name ++ (" [" ++ (subject ++ ("]" ++ idSuffix id))))), ?_, ?_⟩
    · change _ ++ displayName ++ "/" ++ name ++ " [" ++ subject ++ "]" ++ idSuffix id = _
      simp only [String.append_assoc]
      rfl
    · simp [texts, breaks_idSuffix, hslash, hopen, hclose]
  | credentialUnchanged displayName name id | credentialDeleted displayName name id =>
    refine ⟨displayName ++ ("/" ++ (name ++ idSuffix (some id))), ?_, ?_⟩
    · change _ ++ displayName ++ "/" ++ name ++ idSuffix (some id) = _
      simp only [String.append_assoc]
      rfl
    · simp [texts, breaks_idSuffix, hslash]
  | identityAbsent _ =>
    refine ⟨_, String.append_assoc .., ?_⟩
    simp [texts, habsent]

theorem breaks_line (c : Change) : breaks c.line = (c.texts.map breaks).sum := by
  obtain ⟨rest, hline, hrest⟩ := c.line_eq
  rw [hline, breaks_append, breaks_eq_zero_iff.mpr c.kind.isLine_lead, Nat.zero_add, hrest]

theorem isLine_line_iff (c : Change) : IsLine c.line ↔ AreLines c.texts := by
  rw [← breaks_eq_zero_iff, breaks_line, sum_breaks_eq_zero_iff]

/-- The entry of a change begins with its sign, also if it is not all of one line. -/
theorem mark_line (c : Change) : (pieces c.line).head?.bind mark = some c.kind.sign := by
  obtain ⟨rest, hline, -⟩ := c.line_eq
  rw [hline, mark_of_start c.kind.isLine_lead c.kind.mark_lead]

end Change

theorem newline_not_mem_toDigits (n : Nat) : '\n' ∉ Nat.toDigits 16 n := by
  induction n using Nat.strongRecOn with
  | ind n ih =>
    rw [Nat.toDigits_eq_if (by decide)]
    split
    · simp
    · have hrest := ih (n / 16) (by omega)
      simp [hrest]

theorem Uuid.isLine_text (u : Uuid) : IsLine u.text := by
  rw [IsLine, text, String.toList_ofList]
  have hdigits : '\n' ∉ List.replicate (32 - (Nat.toDigits 16 u.number).length) '0' ++
      Nat.toDigits 16 u.number := by
    simp [newline_not_mem_toDigits]
  revert hdigits
  generalize List.replicate (32 - (Nat.toDigits 16 u.number).length) '0' ++
    Nat.toDigits 16 u.number = ds
  intro hdigits
  have htake : ∀ n, '\n' ∉ ds.take n := fun n h => hdigits (List.mem_of_mem_take h)
  have hdrop : ∀ n, '\n' ∉ ds.drop n := fun n h => hdigits (List.mem_of_mem_drop h)
  have hpart : ∀ m n, '\n' ∉ (ds.drop m).take n := fun m n h => hdrop m (List.mem_of_mem_take h)
  simp only [List.mem_append, not_or, htake, hdrop, hpart]
  decide

theorem changeLines_eq (changes : List Change) : changeLines changes =
    if changes = [] then ["No changes."] else changes.map Change.line := by
  cases changes <;> rfl

theorem areLines_changeLines_iff (changes : List Change) :
    AreLines (changeLines changes) ↔ ∀ c ∈ changes, AreLines c.texts := by
  rw [changeLines_eq]
  split
  · rename_i hnil
    subst hnil
    exact iff_of_true (by decide) (List.forall_mem_nil _)
  · simp only [AreLines, List.forall_mem_map, Change.isLine_line_iff]

namespace Report

theorem isLine_headLine (r : Report) : IsLine r.headLine := by
  have haction : IsLine r.action.name := by cases r.action <;> decide
  have hrun : IsLine " run " := by decide
  have hdry : IsLine (if r.dryRun then " (dry run)" else "") := by cases r.dryRun <;> decide
  simp [headLine, haction, hrun, hdry, Uuid.isLine_text]

theorem areLines_lines_iff (r : Report) : AreLines r.lines ↔
    (∀ c ∈ r.changes, AreLines c.texts) ∧
      ∀ e ∈ r.errors, IsLine e.displayName ∧ IsLine e.error := by
  have hmark : IsLine "! " := by decide
  have hcolon : IsLine ": " := by decide
  have herrors : (∀ l ∈ r.errors.map (fun e => "! " ++ e.displayName ++ ": " ++ e.error),
      IsLine l) ↔ ∀ e ∈ r.errors, IsLine e.displayName ∧ IsLine e.error := by
    simp only [List.forall_mem_map, isLine_append, hmark, hcolon, true_and, and_true]
  have hcancelled : AreLines (if r.cancelled then [cancelledLine] else []) := by
    cases r.cancelled <;> decide
  have happend : AreLines r.lines ↔ ((IsLine r.headLine ∧ AreLines (changeLines r.changes)) ∧
      AreLines (r.errors.map fun e => "! " ++ e.displayName ++ ": " ++ e.error)) ∧
      AreLines (if r.cancelled then [cancelledLine] else []) := by
    simp only [lines, AreLines, List.forall_mem_append, List.forall_mem_cons]
  rw [happend, and_iff_left hcancelled, and_iff_right r.isLine_headLine, areLines_changeLines_iff]
  exact and_congr_right fun _ => herrors

theorem linesOf_shown {r : Report} {entries : List String} (h : r.lines = r.headLine :: entries) :
    linesOf r.shown = r.headLine :: entries.flatMap pieces := by
  rw [shown, linesOf_unlines, h, List.flatMap_cons, pieces_eq_singleton_iff.mpr r.isLine_headLine,
    List.singleton_append]

/-- The text of a report has the lines that it is made of if and only if no text that it shows
breaks its line. -/
theorem linesOf_shown_eq_iff (r : Report) : linesOf r.shown = r.lines ↔
    (∀ c ∈ r.changes, AreLines c.texts) ∧
      ∀ e ∈ r.errors, IsLine e.displayName ∧ IsLine e.error := by
  rw [shown, linesOf_unlines_eq_iff, areLines_lines_iff]

end Report

end Federation
