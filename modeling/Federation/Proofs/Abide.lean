import Federation.Proofs.Aim
import Federation.Proofs.Weave
import Federation.Reconcile.Ensure

namespace Federation

inductive Known
  | nothing
  | absent
  | only (id : ObjectId)

def Known.Holds (calm : Bool) : Known → List ObjectId → Prop
  | .nothing, _ => True
  | .absent, ids => ids = []
  | .only id, ids => ids = [id] ∨ (calm = false ∧ ids = [])

theorem Known.Holds.of_sublist {calm : Bool} {known : Known} {ids ids' : List ObjectId}
    (h : known.Holds calm ids) (hs : ids'.Sublist ids) (hcalm : calm = true → ids' = ids) :
    known.Holds calm ids' := by
  cases calm with
  | true => rwa [hcalm rfl]
  | false =>
    cases known with
    | nothing => trivial
    | absent => exact List.sublist_nil.mp (h ▸ hs)
    | only id =>
      obtain rfl | ⟨-, rfl⟩ := h
      · exact (List.sublist_singleton.mp hs).symm.imp_right fun hn => ⟨rfl, hn⟩
      · exact .inr ⟨rfl, List.sublist_nil.mp hs⟩

/-- Where a routine stands: the lock it holds with what it knows by it, the calls it made and the
changes it put on record. -/
structure Standing where
  hold : Option (Aim × Known)
  deeds : List Deed
  changes : List Change

def Standing.under (st : Standing) (aim : Aim) : Standing :=
  { st with hold := some (aim, .nothing) }

def Fits (calm : Bool) (hold : Option (Aim × Known)) (s : Store) : Prop :=
  ∀ h ∈ hold, h.2.Holds calm (h.1.ids s)

/-- The rest of a routine creates nothing but what it holds the lock of and knows to be absent,
holds one lock at a time, deletes nothing if all is to be calm, and ends in a standing that the
condition allows. This is for any store that fits, and for a call that is refused. -/
def Abides (names : Naming) (calm : Bool) {α : Type} (post : α → Standing → Prop) :
    Standing → Routine α → Prop
  | st, .done a => post a st
  | st, .call c next =>
    (calm = true → c.isDelete = false) ∧
    ∀ s, s.Sound names → Fits calm st.hold s →
      (∀ aim id, s.creation names c = some (aim, id) → st.hold = some (aim, .absent)) ∧
      Abides names calm post { st with deeds := st.deeds ++ [.refused c s] }
        (next (.error (.transport .cancelled))) ∧
      ∃ hold, hold.map (·.1) = st.hold.map (·.1) ∧ Fits calm hold (Store.behaviour names c s).2 ∧
        Abides names calm post { st with hold, deeds := st.deeds ++ [.done names c s] }
          (next (Store.behaviour names c s).1)
  | st, .acquire key next =>
    st.hold = none ∧ ∃ aim : Aim, aim.key = key ∧
      Abides names calm post { st with hold := some (aim, .nothing) } next
  | st, .release key next =>
    (∃ aim known, st.hold = some (aim, known) ∧ aim.key = key) ∧
      Abides names calm post { st with hold := none } next
  | st, .record change next =>
    Abides names calm post { st with changes := st.changes ++ [change] } next

variable {names : Naming} {calm : Bool} {α β : Type} {st : Standing}

theorem Abides.mono {post post' : α → Standing → Prop} {m : Routine α}
    (h : Abides names calm post st m) (himp : ∀ a st, post a st → post' a st) :
    Abides names calm post' st m := by
  induction m generalizing st with
  | done a => exact himp a st h
  | call c next ih =>
    refine ⟨h.1, fun s hs hf => ?_⟩
    obtain ⟨hcreate, hrefused, hold, hsame, hfits, hdone⟩ := h.2 s hs hf
    exact ⟨hcreate, ih _ hrefused, hold, hsame, hfits, ih _ hdone⟩
  | acquire key next ih =>
    obtain ⟨hfree, aim, hkey, hnext⟩ := h
    exact ⟨hfree, aim, hkey, ih hnext⟩
  | release key next ih => exact ⟨h.1, ih h.2⟩
  | record change next ih => exact ih h

theorem Abides.bind {post : β → Standing → Prop} {m : Routine α} {f : α → Routine β}
    (h : Abides names calm (fun a st => Abides names calm post st (f a)) st m) :
    Abides names calm post st (m.bind f) := by
  induction m generalizing st with
  | done a => exact h
  | call c next ih =>
    refine ⟨h.1, fun s hs hf => ?_⟩
    obtain ⟨hcreate, hrefused, hold, hsame, hfits, hdone⟩ := h.2 s hs hf
    exact ⟨hcreate, ih _ hrefused, hold, hsame, hfits, ih _ hdone⟩
  | acquire key next ih =>
    obtain ⟨hfree, aim, hkey, hnext⟩ := h
    exact ⟨hfree, aim, hkey, ih hnext⟩
  | release key next ih => exact ⟨h.1, ih h.2⟩
  | record change next ih => exact ih h

variable {post : Except ReconcileError α → Standing → Prop}

theorem Abides.pure {a : α} (h : post (.ok a) st) :
    Abides names calm post st (pure a : Attempt α).run := h

theorem Abides.throw {e : ReconcileError} (h : post (.error e) st) :
    Abides names calm post st (throw e : Attempt α).run := h

theorem Abides.andThen {mid : Except ReconcileError β → Standing → Prop} {m : Attempt β}
    {f : β → Attempt α} (hm : Abides names calm mid st m.run)
    (hok : ∀ b st, mid (.ok b) st → Abides names calm post st (f b).run)
    (herr : ∀ e st, mid (.error e) st → post (.error e) st) :
    Abides names calm post st (m >>= f).run := by
  refine Abides.bind (hm.mono fun r st h => ?_)
  cases r with
  | ok b => exact hok b st h
  | error e => exact herr e st h

theorem Abides.record {change : Change} {post : Except ReconcileError Unit → Standing → Prop}
    (h : post (.ok ()) { st with changes := st.changes ++ [change] }) :
    Abides names calm post st (Attempt.record change).run := h

theorem Abides.lookup {c : Call} {post : Except ReconcileError (Option c.Answer) → Standing → Prop}
    (hc : c.kind.isLookup = true)
    (hrefused : ∀ s, post (.error (.directory (.transport .cancelled)))
      { st with deeds := st.deeds ++ [.refused c s] })
    (hdone : ∀ s, s.Sound names → Fits calm st.hold s →
      ∃ hold, hold.map (·.1) = st.hold.map (·.1) ∧ Fits calm hold s ∧
        post (Attempt.found (Store.behaviour names c s).1)
          { st with hold, deeds := st.deeds ++ [.done names c s] }) :
    Abides names calm post st (Attempt.lookup c).run := by
  cases c with
  | getServicePrincipal _ | getApplication _ | getCredential _ _ _ =>
    exact ⟨fun _ => rfl, fun s hs hf => ⟨fun _ _ h => (nomatch h), hrefused s, hdone s hs hf⟩⟩
  | createServicePrincipal _ _ | createApplication _ | addCredential _ _ | deleteServicePrincipal _
  | deleteApplication _ | deleteCredential _ _ => cases hc

theorem Abides.perform {c : Call} {post : Except ReconcileError c.Answer → Standing → Prop}
    (hcalm : calm = true → c.isDelete = false)
    (hrefused : ∀ s, post (.error (.directory (.transport .cancelled)))
      { st with deeds := st.deeds ++ [.refused c s] })
    (hdone : ∀ s, s.Sound names → Fits calm st.hold s →
      (∀ aim id, s.creation names c = some (aim, id) → st.hold = some (aim, .absent)) ∧
      ∃ hold, hold.map (·.1) = st.hold.map (·.1) ∧ Fits calm hold (Store.behaviour names c s).2 ∧
        post ((Store.behaviour names c s).1.mapError .directory)
          { st with hold, deeds := st.deeds ++ [.done names c s] }) :
    Abides names calm post st (Attempt.perform c).run :=
  ⟨hcalm, fun s hs hf => ⟨(hdone s hs hf).1, hrefused s, (hdone s hs hf).2⟩⟩

theorem Abides.holding {aim : Aim} {body : Attempt α} (hfree : st.hold = none)
    {mid : Except ReconcileError α → Standing → Prop}
    (h : Abides names calm mid (st.under aim) body.run)
    (hpost : ∀ r st', mid r st' →
      st'.hold.map (·.1) = some aim ∧ post r { st' with hold := none }) :
    Abides names calm post st (Attempt.holding aim.key body).run := by
  refine ⟨hfree, aim, rfl, Abides.bind (h.mono fun r st' hmid => ?_)⟩
  obtain ⟨hlock, hr⟩ := hpost r st' hmid
  obtain ⟨⟨aim', known⟩, hhold, rfl⟩ := Option.map_eq_some_iff.mp hlock
  exact ⟨⟨aim', known, hhold, rfl⟩, hr⟩

end Federation
