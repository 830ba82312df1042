import Federation.Json.Reader
import Federation.Proofs.Canonical
import Federation.Proofs.Loaded
import Mathlib

namespace Federation.Json

open Declaration (bind_ok)

/-- No whole number in the value is above the greatest one that is kept exactly. -/
inductive Bounded : Json → Prop
  | null : Bounded .null
  | bool (b : Bool) : Bounded (.bool b)
  | integer {n : Int} (h : n ≤ greatestInteger) : Bounded (.integer n)
  | double (x : Double) : Bounded (.double x)
  | string (s : String) : Bounded (.string s)
  | array {items : List Json} (h : ∀ v ∈ items, Bounded v) : Bounded (.array items)
  | object {fields : List (String × Json)} (h : ∀ f ∈ fields, Bounded f.2) :
    Bounded (.object fields)

theorem Bounded.field {v : Json} (h : v.Bounded) (key : String) : (v.field key).Bounded := by
  cases h with
  | @object fields h =>
    change ((get? key fields).getD .null).Bounded
    cases hf : get? key fields with
    | none => exact .null
    | some w => exact h (key, w) (mem_of_get? hf)
  | _ => exact .null

theorem bounded_ofWhole {n : Nat} (hn : n ≤ greatestInteger) (negative : Bool) :
    (ofWhole negative n).Bounded := by
  cases negative with
  | false => exact .integer (Int.ofNat_le.mpr hn)
  | true =>
    simp only [ofWhole, Bool.not_true, Bool.false_eq_true, if_false]
    split
    · exact .integer (by omega)
    · exact .double _

theorem bounded_put {v : Json} {seen : List (String × Json)} (hv : v.Bounded)
    (hseen : ∀ f ∈ seen, f.2.Bounded) (key : String) : ∀ f ∈ put key v seen, f.2.Bounded := by
  intro f hf
  obtain rfl | hf := mem_of_mem_put hf
  · exact hv
  · exact hseen f hf

namespace Reader

variable {negative : Bool} {d : Digits} {bs rest : List UInt8} {v : Json}

theorem addDigits_le {n : Nat} (hn : n ≤ greatestInteger) (count : Nat) (bs : List UInt8) :
    (addDigits n count bs).1 ≤ greatestInteger := by
  induction bs generalizing n count with
  | nil => exact hn
  | cons b bs ih =>
    rw [addDigits]
    split
    · rename_i h
      exact ih h.2 _
    · exact hn

theorem finishDouble_bounded (h : finishDouble negative d bs = .ok (v, rest)) : v.Bounded := by
  unfold finishDouble at h
  split at h
  · cases h
    exact .double _
  · cases h

theorem exponent_bounded (h : exponent negative d bs = .ok (v, rest)) : v.Bounded := by
  unfold exponent at h
  split at h
  split at h
  · cases h
  split at h
  · cases h
  split at h
  · exact finishDouble_bounded h
  split at h
  · cases h
  · cases h
    exact .double _

theorem afterPoint_bounded (h : afterPoint negative d bs = .ok (v, rest)) : v.Bounded := by
  unfold afterPoint at h
  split at h
  · split at h
    · exact exponent_bounded h
    · exact finishDouble_bounded h
  · exact finishDouble_bounded h

theorem decimals_bounded (h : decimals negative d bs = .ok (v, rest)) : v.Bounded := by
  unfold decimals at h
  dsimp only at h
  split at h
  · split at h
    · exact afterPoint_bounded h
    split at h
    · cases h
    · exact afterPoint_bounded h
  · split at h
    · cases h
    · exact afterPoint_bounded h

theorem afterWhole_bounded (hd : d.significand ≤ greatestInteger)
    (h : afterWhole negative d bs = .ok (v, rest)) : v.Bounded := by
  have hwhole : ∀ bs, (if d.power = 0 then .ok (ofWhole negative d.significand, bs)
      else finishDouble negative d bs) = Except.ok (v, rest) → v.Bounded := by
    intro bs hw
    split at hw
    · cases hw
      exact bounded_ofWhole hd negative
    · exact finishDouble_bounded hw
  unfold afterWhole at h
  dsimp only at h
  split at h
  · split at h
    · exact decimals_bounded h
    split at h
    · exact exponent_bounded h
    · exact hwhole _ h
  · exact hwhole _ h

theorem number_bounded (h : number negative bs = .ok (v, rest)) : v.Bounded := by
  unfold number at h
  split at h
  · cases h
  rename_i b bs
  split at h
  · split at h
    · split at h
      · cases h
      · exact afterWhole_bounded (Nat.zero_le _) h
    · exact afterWhole_bounded (Nat.zero_le _) h
  split at h
  · have hdigit : digit b ≤ greatestInteger :=
      calc digit b ≤ b.toNat := Nat.sub_le _ _
        _ ≤ 255 := Nat.le_of_lt_succ b.toNat_lt
        _ ≤ greatestInteger := by decide
    exact afterWhole_bounded (addDigits_le hdigit 0 bs) h
  · cases h

theorem bounded_of_map {α : Type} {r : Except Stop (α × List UInt8)} {f : α → Json}
    (hf : ∀ a rest, r = .ok (a, rest) → (f a).Bounded)
    (h : (r.map fun (a, rest) => (f a, rest)) = .ok (v, rest)) : v.Bounded := by
  cases r with
  | error e => cases h
  | ok a =>
    cases h
    exact hf _ _ rfl

structure ReadsBounded (fuel : Nat) : Prop where
  value : ∀ {depth bs v rest}, value fuel depth bs = .ok (v, rest) → v.Bounded
  items : ∀ {depth first bs vs rest}, items fuel depth first bs = .ok (vs, rest) →
    ∀ v ∈ vs, v.Bounded
  item : ∀ {depth bs vs rest}, item fuel depth bs = .ok (vs, rest) → ∀ v ∈ vs, v.Bounded
  members : ∀ {depth first seen bs fs rest}, members fuel depth first seen bs = .ok (fs, rest) →
    (∀ f ∈ seen, f.2.Bounded) → ∀ f ∈ fs, f.2.Bounded
  member : ∀ {depth seen bs fs rest}, member fuel depth seen bs = .ok (fs, rest) →
    (∀ f ∈ seen, f.2.Bounded) → ∀ f ∈ fs, f.2.Bounded

theorem readsBounded_zero : ReadsBounded 0 := by
  refine ⟨fun h => ?_, fun h => ?_, fun h => ?_, fun h => ?_, fun h => ?_⟩
  · unfold Reader.value at h
    cases h
  · unfold Reader.items at h
    cases h
  · unfold Reader.item at h
    cases h
  · unfold Reader.members at h
    cases h
  · unfold Reader.member at h
    cases h

namespace ReadsBounded

variable {fuel depth : Nat} {first : Bool} {vs : List Json} {seen fs : List (String × Json)}

theorem value_succ (h : ReadsBounded fuel)
    (hread : Reader.value (fuel + 1) depth bs = .ok (v, rest)) : v.Bounded := by
  have hword : ∀ {w : Json} {r : Except Stop (List UInt8)}, w.Bounded →
      r.map (w, ·) = .ok (v, rest) → v.Bounded := by
    intro w r hw hr
    cases r with
    | error e => cases hr
    | ok a =>
      cases hr
      exact hw
  unfold Reader.value at hread
  split at hread
  · cases hread
  split at hread
  · exact hword .null hread
  split at hread
  · exact hword (.bool true) hread
  split at hread
  · exact hword (.bool false) hread
  split at hread
  · exact number_bounded hread
  split at hread
  · exact number_bounded hread
  split at hread
  · exact bounded_of_map (fun s _ _ => .string s) hread
  split at hread
  · split at hread
    · cases hread
    · exact bounded_of_map (fun vs _ hvs => .array (h.items hvs)) hread
  split at hread
  · split at hread
    · cases hread
    · exact bounded_of_map (fun fs _ hfs => .object (h.members hfs (List.forall_mem_nil _))) hread
  · cases hread

theorem items_succ (h : ReadsBounded fuel)
    (hread : Reader.items (fuel + 1) depth first bs = .ok (vs, rest)) : ∀ v ∈ vs, v.Bounded := by
  unfold Reader.items at hread
  split at hread
  · cases hread
  split at hread
  · cases hread
    exact List.forall_mem_nil _
  split at hread
  · exact h.item hread
  split at hread
  · split at hread
    · cases hread
    split at hread
    · cases hread
    · exact h.item hread
  · cases hread

theorem item_succ (h : ReadsBounded fuel)
    (hread : Reader.item (fuel + 1) depth bs = .ok (vs, rest)) : ∀ v ∈ vs, v.Bounded := by
  unfold Reader.item at hread
  obtain ⟨_, hv, hread⟩ := bind_ok hread
  obtain ⟨_, hvs, hread⟩ := bind_ok hread
  cases hread
  exact List.forall_mem_cons.mpr ⟨h.value hv, h.items hvs⟩

theorem members_succ (h : ReadsBounded fuel)
    (hread : Reader.members (fuel + 1) depth first seen bs = .ok (fs, rest))
    (hseen : ∀ f ∈ seen, f.2.Bounded) : ∀ f ∈ fs, f.2.Bounded := by
  unfold Reader.members at hread
  split at hread
  · cases hread
  split at hread
  · cases hread
    exact hseen
  split at hread
  · split at hread
    · exact h.member hread hseen
    · cases hread
  split at hread
  · split at hread
    · cases hread
    split at hread
    · exact h.member hread hseen
    · split at hread <;> cases hread
  · cases hread

theorem member_succ (h : ReadsBounded fuel)
    (hread : Reader.member (fuel + 1) depth seen bs = .ok (fs, rest))
    (hseen : ∀ f ∈ seen, f.2.Bounded) : ∀ f ∈ fs, f.2.Bounded := by
  unfold Reader.member at hread
  obtain ⟨⟨key, _⟩, -, hread⟩ := bind_ok hread
  obtain ⟨_, -, hread⟩ := bind_ok hread
  obtain ⟨_, hv, hread⟩ := bind_ok hread
  exact h.members hread (bounded_put (h.value hv) hseen key)

end ReadsBounded

theorem readsBounded (fuel : Nat) : ReadsBounded fuel := by
  induction fuel with
  | zero => exact readsBounded_zero
  | succ fuel ih => exact ⟨ih.value_succ, ih.items_succ, ih.item_succ, ih.members_succ, ih.member_succ⟩

end Reader

theorem mapError_eq_ok {ε ε' α : Type} {f : ε → ε'} {x : Except ε α} {a : α}
    (h : x.mapError f = .ok a) : x = .ok a := by
  cases x with
  | error e => cases h
  | ok b =>
    cases h
    rfl

theorem bounded_of_ofBytes {bs : List UInt8} {v : Json} (h : ofBytes bs = .ok v) : v.Bounded := by
  unfold ofBytes at h
  obtain ⟨⟨w, rest⟩, hread, h⟩ := bind_ok (mapError_eq_ok h)
  dsimp only at h
  split at h
  · cases h
    exact (Reader.readsBounded _).value hread
  · cases h

theorem asNat?_eq_some_iff {v : Json} {n : Nat} : v.asNat? = some n ↔ v = .integer n := by
  cases v with
  | integer i =>
    simp only [asNat?, integer.injEq]
    split <;> simp <;> omega
  | _ => simp [asNat?]

/-- A whole number that is read and not below zero is an unsigned number of 64 bits. -/
theorem Bounded.asNat?_lt {v : Json} (hv : v.Bounded) {n : Nat} (h : v.asNat? = some n) :
    n < 2 ^ 64 := by
  have hgreatest : greatestInteger = 2 ^ 64 - 1 := rfl
  rw [asNat?_eq_some_iff.mp h] at hv
  obtain _ | _ | ⟨hn⟩ := hv
  omega

end Federation.Json
