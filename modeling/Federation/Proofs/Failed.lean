import Federation.Directory.Remote
import Federation.Proofs.Answer

namespace Federation

namespace Response

/-- The error that an answer without success stands for: the one it carries, the fault of what it
carries under the key of errors, or its status with the text of its body. -/
inductive Failure (r : Response) : DirectoryError → Prop
  | reported {e : ServiceError} (h : r.Reports e) : Failure r (.service e)
  | garbled {why : BodyFault} (hn : ∀ e, ¬ r.Reports e) (hc : ¬ r.Clean) : Failure r (.body why)
  | text {t : String} (hb : r.body = .string t) : Failure r (.transport (.status r.status t))
  | json (hc : r.Clean) (hnull : r.body ≠ .null) (htext : ∀ t, r.body ≠ .string t) :
    Failure r (.transport (.status r.status r.body.compact))

variable {r : Response}

theorem fields_of_clean_failure (hc : r.Clean) (hs : r.isSuccess = false) :
    r.fields = .error (r.statusError r.body.bodyText) := by
  cases hb : r.body with
  | object fs =>
    simp [fields, hb, classify_of_clean hc hb, hs, Envelope.verdict, bind, Except.bind]
  | null | bool _ | integer _ | double _ | string _ | array _ => simp [fields, hb, hs]

theorem bodyText_eq_compact {v : Json} (h : ∀ t, v ≠ .string t) : v.bodyText = v.compact := by
  cases v with
  | string t => exact absurd rfl (h t)
  | null | bool _ | integer _ | double _ | array _ | object _ => rfl

theorem failure_of_fields (hs : r.isSuccess = false) (hb : r.body ≠ .null) :
    ∃ e, r.Failure e ∧ r.fields = .error e := by
  by_cases hc : r.Clean
  · refine ⟨_, ?_, fields_of_clean_failure hc hs⟩
    by_cases ht : ∃ t, r.body = .string t
    · obtain ⟨t, ht⟩ := ht
      rw [ht]
      exact .text ht
    · rw [bodyText_eq_compact (not_exists.mp ht)]
      exact .json hc hb (not_exists.mp ht)
  · by_cases he : ∃ e, r.Reports e
    · obtain ⟨e, he⟩ := he
      exact ⟨_, .reported he, fields_of_reports he⟩
    · obtain ⟨why, hw⟩ := fields_of_garbled (not_exists.mp he) hc
      exact ⟨_, .garbled (not_exists.mp he) hc, hw⟩

theorem clean_of_not_object (hb : ∀ fs, r.body ≠ .object fs) : r.Clean :=
  fun fs _ hf => absurd hf (hb fs)

theorem outcome_of_text_failure {t : String} (hs : r.isSuccess = false) (hb : r.body = .string t)
    (c : Call) : r.outcome c = .error (.transport (.status r.status t)) := by
  refine outcome_of_fields_error ?_ c fun _ => by simp [hb]
  rw [fields_of_clean_failure (clean_of_not_object (by simp [hb])) hs, hb]
  rfl

theorem outcome_of_empty_failure (hs : r.isSuccess = false) (hb : r.body = .null) (c : Call) :
    r.outcome c =
      .error (.transport (.status r.status (if c.isDelete then "" else Json.null.compact))) := by
  cases hd : c.isDelete with
  | true => exact (outcome_of_null hd hb).2.2 hs
  | false =>
    refine outcome_of_fields_error ?_ c fun h => absurd h (by simp [hd])
    rw [fields_of_clean_failure (clean_of_not_object (by simp [hb])) hs, hb]
    rfl

end Response

theorem Remote.readBody_of_garbage {bs : List UInt8} {why : Json.ReadError} (hne : bs ≠ [])
    (h : Json.ofBytes bs = .error why) : readBody bs = .string (Text.ofUtf8Lossy bs) := by
  unfold readBody
  rw [h, if_neg (by simpa using hne)]

/-- An answer that is no success and has a body is one error, whatever was called: the error that it
carries, if it can be read, else its status with the text of its body. One without a body is its
status, with no text for a delete and with the text of nothing for every other call. -/
theorem Gateway.one_failure (r : Response) (hs : r.isSuccess = false) :
    (r.body ≠ .null → ∃ e, r.Failure e ∧ ∀ (σ : Type) (send : Transport σ) (c : Call) (s s' : σ),
      send c.request s = (.ok r, s') → (Gateway.behaviour send c s).1 = .error e) ∧
    (r.body = .null → ∀ (σ : Type) (send : Transport σ) (c : Call) (s s' : σ),
      send c.request s = (.ok r, s') → (Gateway.behaviour send c s).1 =
        .error (.transport (.status r.status (if c.isDelete then "" else "null")))) ∧
    ∀ bs why, bs ≠ [] → Json.ofBytes bs = .error why → r.body = Remote.readBody bs →
      ∀ (σ : Type) (send : Transport σ) (c : Call) (s s' : σ), send c.request s = (.ok r, s') →
        (Gateway.behaviour send c s).1 =
          .error (.transport (.status r.status (Text.ofUtf8Lossy bs))) := by
  have hsent : ∀ (σ : Type) (send : Transport σ) (c : Call) (s s' : σ),
      send c.request s = (.ok r, s') → (Gateway.behaviour send c s).1 = r.outcome c := by
    intro σ send c s s' hr
    rw [Gateway.behaviour, hr]
  refine ⟨fun hb => ?_, fun hb σ send c s s' hr => ?_,
    fun bs why hne hbs hbody σ send c s s' hr => ?_⟩
  · obtain ⟨e, he, hfields⟩ := Response.failure_of_fields hs hb
    refine ⟨e, he, fun σ send c s s' hr => ?_⟩
    rw [hsent σ send c s s' hr]
    exact Response.outcome_of_fields_error hfields c fun _ => hb
  · rw [hsent σ send c s s' hr]
    exact Response.outcome_of_empty_failure hs hb c
  · rw [Remote.readBody_of_garbage hne hbs] at hbody
    rw [hsent σ send c s s' hr]
    exact Response.outcome_of_text_failure hs hbody c

theorem Gateway.one_failure_proxied :
    let r : Response := ⟨502, .string "bad gateway"⟩
    r.isSuccess = false ∧ r.body ≠ .null ∧
    ∀ c, (Gateway.behaviour (fun _ s => (.ok r, s)) c ()).1 =
      .error (.transport (.status 502 "bad gateway")) := by
  intro r
  obtain ⟨e, he, hall⟩ := (one_failure r rfl).1 nofun
  refine ⟨rfl, nofun, fun c => (hall Unit _ c () () rfl).trans ?_⟩
  cases he with
  | reported h =>
    obtain ⟨_, _, hb, -⟩ := h
    cases hb
  | garbled _ hc => exact absurd (fun _ _ hb => by cases hb) hc
  | text hb =>
    cases hb
    rfl
  | json _ _ htext => exact absurd rfl (htext _)

/-- The same answer, without a body, to a lookup and to a delete. -/
theorem Gateway.empty_failures_differ :
    let r : Response := ⟨500, .null⟩
    let send : Transport Unit := fun _ s => (.ok r, s)
    r.isSuccess = false ∧
    (Gateway.behaviour send (.getApplication "payments") ()).1 =
      .error (.transport (.status 500 "null")) ∧
    (Gateway.behaviour send (.deleteApplication ⟨"obj-1"⟩) ()).1 =
      .error (.transport (.status 500 "")) ∧
    ¬ ∃ e, ∀ c, (Gateway.behaviour send c ()).1 = .error e := by
  intro r send
  refine ⟨rfl, rfl, rfl, fun ⟨e, he⟩ => ?_⟩
  have hlookup : DirectoryError.transport (.status 500 "null") = e :=
    Except.error.inj (he (.getApplication "payments"))
  have hdelete : DirectoryError.transport (.status 500 "") = e :=
    Except.error.inj (he (.deleteApplication ⟨"obj-1"⟩))
  exact absurd (hlookup.trans hdelete.symm) (by simp)

end Federation
