import Mathlib.Data.List.Chain
import Federation.Proofs.Weave

namespace Federation

abbrev Mutation : Type := Change.Kind × Option ObjectId

namespace Change

def id? : Change → Option ObjectId
  | .applicationCreated _ id | .principalCreated _ id | .credentialAdded _ _ _ _ id => id
  | .applicationUnchanged _ id | .applicationDeleted _ id | .principalUnchanged _ id
  | .principalDeleted _ id | .credentialUnchanged _ _ id | .credentialDeleted _ _ id => some id
  | .identityAbsent _ => none

def mutation? (c : Change) : Option Mutation := if c.isMutation then some (c.kind, c.id?) else none

end Change

namespace Deed

/-- What a call that succeeded did to the directory. An addition answers nothing; what it added is
the last of the credentials. -/
def mutation? : Deed → Option Mutation
  | ⟨.createApplication _, .ok app, _⟩ => some (.applicationCreated, some app.id)
  | ⟨.createServicePrincipal .., .ok principal, _⟩ => some (.principalCreated, some principal.id)
  | ⟨.addCredential owner _, .ok (), s⟩ =>
    some (.credentialAdded, (s.credentialsOf owner).getLast?.map (·.id))
  | ⟨.deleteApplication id, .ok (), _⟩ => some (.applicationDeleted, some id)
  | ⟨.deleteServicePrincipal id, .ok (), _⟩ => some (.principalDeleted, some id)
  | ⟨.deleteCredential _ id, .ok (), _⟩ => some (.credentialDeleted, some id)
  | _ => none

def isAddition : Deed → Bool
  | ⟨.addCredential .., .ok (), _⟩ => true
  | _ => false

def isRefused (d : Deed) : Bool :=
  match d.outcome with
  | .error e => e.isCancelled
  | .ok _ => false

end Deed

def performed (deeds : List Deed) : List Mutation := deeds.filterMap Deed.mutation?

def recorded (changes : List Change) : List Mutation := changes.filterMap Change.mutation?

/-- No call was refused right after a credential was added. -/
def Unbroken (deeds : List Deed) : Prop :=
  deeds.IsChain fun d e => d.isAddition = true → e.isRefused = false

instance (deeds : List Deed) : Decidable (Unbroken deeds) :=
  inferInstanceAs (Decidable (deeds.IsChain _))

structure Sealed (deeds : List Deed) : Prop where
  unbroken : Unbroken deeds
  last : ∀ d ∈ deeds.getLast?, d.isAddition = false

theorem sealed_nil : Sealed [] := ⟨.nil, by simp⟩

@[simp] theorem performed_append (deeds : List Deed) (d : Deed) :
    performed (deeds ++ [d]) = performed deeds ++ d.mutation?.toList := by
  simp only [performed, List.filterMap_append]
  cases h : d.mutation? <;> simp [h]

@[simp] theorem recorded_append (changes : List Change) (c : Change) :
    recorded (changes ++ [c]) = recorded changes ++ c.mutation?.toList := by
  simp only [recorded, List.filterMap_append]
  cases h : c.mutation? <;> simp [h]

theorem unbroken_append {deeds : List Deed} {d : Deed} :
    Unbroken (deeds ++ [d]) ↔
      Unbroken deeds ∧ ∀ x ∈ deeds.getLast?, x.isAddition = true → d.isRefused = false := by
  simp [Unbroken, List.isChain_append]

theorem Sealed.append {deeds : List Deed} (h : Sealed deeds) {d : Deed}
    (hd : d.isAddition = false) : Sealed (deeds ++ [d]) := by
  refine ⟨unbroken_append.mpr ⟨h.unbroken, fun x hx hadd => ?_⟩, by simpa using hd⟩
  rw [h.last x hx] at hadd
  cases hadd

theorem Sealed.append_addition {deeds : List Deed} (h : Sealed deeds) (d : Deed) {e : Deed}
    (he : e.isAddition = false) (hr : e.isRefused = false) : Sealed (deeds ++ [d] ++ [e]) := by
  refine ⟨unbroken_append.mpr ⟨unbroken_append.mpr ⟨h.unbroken, fun x hx hadd => ?_⟩, ?_⟩,
    by simpa using he⟩
  · rw [h.last x hx] at hadd
    cases hadd
  · exact fun _ _ _ => hr

theorem not_unbroken_addition {deeds : List Deed} {d e : Deed} (hd : d.isAddition = true)
    (he : e.isRefused = true) : ¬ Unbroken (deeds ++ [d] ++ [e]) := by
  intro h
  have hr := (unbroken_append.mp h).2 d (by simp) hd
  rw [he] at hr
  cases hr

end Federation
