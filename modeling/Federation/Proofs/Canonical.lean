import Mathlib.Data.List.Nodup
import Federation.Proofs.Codec

namespace Federation.Json

variable {k k' : String} {v w : Json} {fs gs : List (String × Json)}

/-- The keys are in order, so each occurs once. -/
def Sorted (fs : List (String × Json)) : Prop := fs.Pairwise fun f g => f.1 < g.1

theorem mem_of_get? (h : get? k fs = some v) : (k, v) ∈ fs := by
  induction fs with
  | nil => cases h
  | cons f rest ih =>
    unfold get? at h
    split at h
    · rename_i hk
      cases h
      rw [← hk]
      exact List.mem_cons_self
    · exact List.mem_cons_of_mem _ (ih h)

theorem get?_eq_none_iff : get? k fs = none ↔ ∀ f ∈ fs, f.1 ≠ k := by
  induction fs with
  | nil => simp [get?]
  | cons f rest ih =>
    unfold get?
    rw [List.forall_mem_cons, ← ih]
    split <;> simp [*]

theorem get?_append : get? k (fs ++ gs) = (get? k fs).or (get? k gs) := by
  induction fs with
  | nil => rfl
  | cons f rest ih =>
    simp only [List.cons_append, get?, ih]
    split <;> rfl

theorem Sorted.nodup_keys (h : Sorted fs) : (fs.map (·.1)).Nodup := by
  refine List.pairwise_map.mpr (h.imp fun {f g} hlt he => ?_)
  rw [he] at hlt
  exact String.lt_irrefl _ hlt

theorem get?_of_mem (hfs : (fs.map (·.1)).Nodup) (h : (k, v) ∈ fs) : get? k fs = some v := by
  induction fs with
  | nil => cases h
  | cons f rest ih =>
    obtain ⟨hnew, hrest⟩ := List.nodup_cons.mp hfs
    unfold get?
    obtain rfl | hmem := List.mem_cons.mp h
    · exact if_pos rfl
    · have hne : f.1 ≠ k := fun he => hnew (List.mem_map.mpr ⟨_, hmem, he.symm⟩)
      rw [if_neg hne]
      exact ih hrest hmem

theorem Sorted.get?_of_mem (hfs : Sorted fs) (h : (k, v) ∈ fs) : get? k fs = some v :=
  Json.get?_of_mem hfs.nodup_keys h

/-- Sorted fields with the same under each key are the same. -/
theorem Sorted.ext (hfs : Sorted fs) (hgs : Sorted gs) (h : ∀ k, get? k fs = get? k gs) :
    fs = gs := by
  have hmem : ∀ f, f ∈ fs ↔ f ∈ gs := fun f =>
    ⟨fun hf => mem_of_get? ((h f.1).symm.trans (hfs.get?_of_mem hf)),
      fun hg => mem_of_get? ((h f.1).trans (hgs.get?_of_mem hg))⟩
  have hperm : fs.Perm gs := (List.perm_ext_iff_of_nodup (hfs.nodup_keys.of_map _)
    (hgs.nodup_keys.of_map _)).mpr hmem
  exact hperm.eq_of_pairwise (fun _ _ _ _ hlt hgt => (String.lt_asymm hlt hgt).elim) hfs hgs

theorem get?_put : get? k' (put k v fs) = if k = k' then some v else get? k' fs := by
  induction fs with
  | nil => rfl
  | cons f rest ih =>
    obtain ⟨l, w⟩ := f
    unfold put
    split
    · rfl
    · split
      · rename_i hkl
        simp only [get?, hkl]
        split <;> rfl
      · rename_i hkl
        simp only [get?, ih]
        by_cases hl : l = k'
        · have hk : k ≠ k' := fun he => hkl (he.trans hl.symm)
          rw [if_pos hl, if_neg hk, if_pos hl]
        · rw [if_neg hl, if_neg hl]

theorem Sorted.put (hfs : Sorted fs) : Sorted (put k v fs) := by
  induction fs with
  | nil => exact List.pairwise_singleton _ _
  | cons f rest ih =>
    obtain ⟨l, w⟩ := f
    obtain ⟨hfirst, hrest⟩ := List.pairwise_cons.mp hfs
    unfold Json.put
    split
    · rename_i hlt
      refine List.pairwise_cons.mpr ⟨?_, hfs⟩
      exact List.forall_mem_cons.mpr ⟨hlt, fun g hg => String.lt_trans hlt (hfirst g hg)⟩
    · rename_i hnot
      split
      · rename_i hkl
        subst hkl
        exact List.pairwise_cons.mpr ⟨hfirst, hrest⟩
      · rename_i hkl
        refine List.pairwise_cons.mpr ⟨fun g hg => ?_, ih hrest⟩
        have hlk : l < k := by
          by_contra hn
          exact hkl (String.le_antisymm (String.not_lt.mp hn) (String.not_lt.mp hnot))
        change l < g.1
        have hget := (ih hrest).get?_of_mem hg
        rw [get?_put] at hget
        split at hget
        · rename_i hk
          exact hk ▸ hlk
        · exact hfirst _ (mem_of_get? hget)

theorem sorted_foldl_put (hgs : Sorted gs) :
    Sorted (fs.foldl (fun sorted f => put f.1 f.2 sorted) gs) := by
  induction fs generalizing gs with
  | nil => exact hgs
  | cons f rest ih => exact ih hgs.put

theorem mem_of_mem_put {f : String × Json} (h : f ∈ put k v fs) : f = (k, v) ∨ f ∈ fs := by
  induction fs with
  | nil => exact .inl (List.mem_singleton.mp h)
  | cons g rest ih =>
    unfold put at h
    split at h
    · exact List.mem_cons.mp h
    · split at h
      · exact (List.mem_cons.mp h).imp_right (List.mem_cons_of_mem _)
      · obtain rfl | h := List.mem_cons.mp h
        · exact .inr List.mem_cons_self
        · exact (ih h).imp_right (List.mem_cons_of_mem _)

theorem mem_of_mem_sortFields {f : String × Json} (h : f ∈ sortFields fs) : f ∈ fs := by
  suffices ∀ gs, f ∈ fs.foldl (fun sorted f => put f.1 f.2 sorted) gs → f ∈ fs ∨ f ∈ gs from
    (this [] h).resolve_right nofun
  clear h
  induction fs with
  | nil => exact fun gs h => .inr h
  | cons g rest ih =>
    intro gs h
    obtain h | h := ih _ h
    · exact .inl (List.mem_cons_of_mem _ h)
    · obtain rfl | h := mem_of_mem_put h
      · exact .inl List.mem_cons_self
      · exact .inr h

theorem sorted_sortFields : Sorted (sortFields fs) := sorted_foldl_put .nil

theorem get?_sortFields (h : (fs.map (·.1)).Nodup) : get? k (sortFields fs) = get? k fs := by
  suffices ∀ gs, get? k (fs.foldl (fun sorted f => put f.1 f.2 sorted) gs) =
      (get? k fs).or (get? k gs) by
    rw [sortFields, this]
    exact Option.or_none
  -- What is put in first is not put in again, for its key does not come twice.
  induction fs with
  | nil => exact fun gs => rfl
  | cons f rest ih =>
    intro gs
    obtain ⟨hnew, hrest⟩ := List.nodup_cons.mp h
    rw [List.foldl_cons, ih hrest, get?_put, get?]
    split
    · rename_i hk
      have hnone : get? k rest = none := get?_eq_none_iff.mpr fun g hg he =>
        hnew (List.mem_map.mpr ⟨g, hg, he.trans hk.symm⟩)
      rw [hnone]
      rfl
    · rfl

theorem Sorted.sortFields (h : Sorted fs) : sortFields fs = fs :=
  sorted_sortFields.ext h fun _ => get?_sortFields h.nodup_keys

theorem Sorted.without (h : Sorted fs) (keys : List String) : Sorted (without keys fs) :=
  h.sublist List.filter_sublist

theorem get?_without (keys : List String) :
    get? k (without keys fs) = if k ∈ keys then none else get? k fs := by
  induction fs with
  | nil =>
    split <;> rfl
  | cons f rest ih =>
    unfold Json.without at ih ⊢
    by_cases hf : f.1 ∈ keys
    · rw [List.filter_cons_of_neg (by simpa using hf), ih]
      split
      · rfl
      · rename_i hk
        have hne : f.1 ≠ k := fun he => hk (he ▸ hf)
        rw [get?, if_neg hne]
    · rw [List.filter_cons_of_pos (by simpa using hf)]
      simp only [get?, ih]
      by_cases hk : f.1 = k
      · rw [if_pos hk, if_neg (hk ▸ hf), if_pos hk]
      · rw [if_neg hk, if_neg hk]

theorem canonicalFields_eq_map :
    canonicalFields fs = fs.map fun f => (f.1, f.2.canonical) := by
  induction fs with
  | nil => rfl
  | cons f rest ih => simp [canonicalFields, ih]

theorem get?_canonicalFields : get? k (canonicalFields fs) = (get? k fs).map canonical := by
  induction fs with
  | nil => rfl
  | cons f rest ih =>
    simp only [canonicalFields, get?, ih]
    split <;> rfl

theorem map_fst_canonicalFields : (canonicalFields fs).map (·.1) = fs.map (·.1) := by
  simp [canonicalFields_eq_map, Function.comp_def]

mutual

/-- A canonical value stays as it is. -/
theorem canonical_canonical : ∀ v : Json, v.canonical.canonical = v.canonical
  | .null | .bool _ | .integer _ | .double _ | .string _ => rfl
  | .array items => congrArg array (canonicalItems_canonicalItems items)
  | .object fields => by
    have hfields : canonicalFields (sortFields (canonicalFields fields)) =
        sortFields (canonicalFields fields) := by
      refine canonicalFields_eq_map.trans
        ((List.map_congr_left fun f hf => ?_).trans (List.map_id _))
      have hvalue := canonical_of_mem_canonicalFields fields f (mem_of_mem_sortFields hf)
      exact Prod.ext rfl hvalue
    simp only [canonical, hfields, sorted_sortFields.sortFields]

theorem canonicalItems_canonicalItems :
    ∀ items : List Json, canonicalItems (canonicalItems items) = canonicalItems items
  | [] => rfl
  | v :: rest => congrArg₂ List.cons (canonical_canonical v) (canonicalItems_canonicalItems rest)

theorem canonical_of_mem_canonicalFields :
    ∀ fields : List (String × Json), ∀ f ∈ canonicalFields fields, f.2.canonical = f.2
  | [], _, h => nomatch h
  | (k, v) :: rest, f, h => by
    obtain rfl | h := List.mem_cons.mp h
    · exact canonical_canonical v
    · exact canonical_of_mem_canonicalFields rest f h

end

theorem sorted_of_canonical (h : v.canonical = .object fs) :
    Sorted fs ∧ ∀ k w, get? k fs = some w → w.canonical = w := by
  cases v with
  | object fields =>
    obtain rfl := object.inj h
    exact ⟨sorted_sortFields, fun k w hw =>
      canonical_of_mem_canonicalFields fields _ (mem_of_mem_sortFields (mem_of_get? hw))⟩
  | null | bool _ | integer _ | double _ | string _ | array _ => cases h

theorem canonical_of_mem {items : List Json} (h : v.canonical = .array items) {w : Json}
    (hw : w ∈ items) : w.canonical = w := by
  cases v with
  | array items' =>
    obtain rfl := array.inj h
    rw [canonicalItems_eq_map] at hw
    obtain ⟨u, -, rfl⟩ := List.mem_map.mp hw
    exact canonical_canonical u
  | null | bool _ | integer _ | double _ | string _ | object _ => cases h

/-- An object whose keys are different has the same under each once it is canonical, made
canonical. -/
theorem canonical_object (fs : List (String × Json)) (h : (fs.map (·.1)).Nodup) :
    ∃ gs, (object fs).canonical = .object gs ∧ Sorted gs ∧
      ∀ k, get? k gs = (get? k fs).map canonical := by
  refine ⟨_, rfl, sorted_sortFields, fun k => ?_⟩
  have hkeys : ((canonicalFields fs).map (·.1)).Nodup := by rwa [map_fst_canonicalFields]
  rw [get?_sortFields hkeys, get?_canonicalFields]

end Federation.Json
