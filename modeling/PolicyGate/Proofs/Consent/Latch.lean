import PolicyGate.Proofs.Consent.Run

/-!
# The consent of a session latches

Five kinds of events record a decision: a reply, the end of the time for one, a cancelled prompt, a last
attempt that brought nothing, and a person on their own. Whoever comes first decides, and the decision is
never changed again. `Run.consent_history` says so for a whole run: either nothing is ever decided, or
there is one moment up to which the session is as new and after which it holds one and the same mode.
-/

namespace PolicyGate

/-- A consent as it can be: nothing is decided, or something is and that is remembered. -/
def ConsentState.Latched (c : ConsentState) : Prop :=
  c = .fresh ∨ ∃ mode, mode.isDecided = true ∧ c = ⟨mode, true⟩

namespace ConsentState

variable {c : ConsentState}

theorem Latched.eq_fresh (h : c.Latched) (ha : c.askedOnce = false) : c = .fresh := by
  rcases h with h | ⟨mode, -, rfl⟩
  · exact h
  · cases ha

theorem Latched.isDecided (h : c.Latched) (ha : c.askedOnce = true) : c.mode.isDecided = true := by
  rcases h with rfl | ⟨mode, hm, rfl⟩
  · cases ha
  · exact hm

theorem Latched.askedOnce_iff (h : c.Latched) :
    c.askedOnce = true ↔ c.mode = .execute ∨ c.mode = .simulate ∨ c.mode = .deny := by
  rcases h with rfl | ⟨mode, hm, rfl⟩
  · simp [ConsentState.fresh]
  · cases mode <;> simp_all [ConsentMode.isDecided]

end ConsentState

namespace Session

variable {s t u : Session} {i : Nat} {call : Call} {e : Event} {p q : Phase}

/-- The consent that a call's progress leaves behind: the one before, or the first decision. -/
theorem Progress.consent (h : Progress s i call e p u q) :
    u.consent = s.consent ∨
      s.consent.askedOnce = false ∧ ∃ mode, mode.isDecided = true ∧ u.consent = ⟨mode, true⟩ := by
  cases h with
  | settle hm ha => exact .inr ⟨ha, _, isDecided_of_mode? hm, rfl⟩
  | decline _ ha => exact .inr ⟨ha, .deny, rfl, rfl⟩
  | abandon ha => exact .inr ⟨ha, .deny, rfl, rfl⟩
  | _ => exact .inl rfl

/-- The same for any effect of any event. -/
theorem Change.consent (h : Change s e t) :
    t.consent = s.consent ∨
      s.consent.askedOnce = false ∧ ∃ mode, mode.isDecided = true ∧ t.consent = ⟨mode, true⟩ := by
  cases h with
  | call hi hp =>
    rw [land_consent]
    exact hp.consent
  | arrive _ => exact .inl rfl
  | speak hd ha => exact .inr ⟨ha, _, isDecided_of_decision? hd, rfl⟩
  | reload _ => exact .inl rfl

theorem latched_change (hs : s.consent.Latched) (h : Change s e t) : t.consent.Latched := by
  rcases h.consent with heq | ⟨-, mode, hm, heq⟩
  · rw [heq]
    exact hs
  · exact .inr ⟨mode, hm, heq⟩

end Session

namespace Run

open Session

variable (r : Run) {m n : Nat}

theorem latched (n : Nat) : (r.session n).consent.Latched :=
  r.invariant (P := fun s => s.consent.Latched) (fun _ _ => .inl rfl) latched_change n

theorem consent_next (n : Nat) :
    (r.session (n + 1)).consent = (r.session n).consent ∨
      (r.session n).consent.askedOnce = false ∧
        ∃ mode, mode.isDecided = true ∧ (r.session (n + 1)).consent = ⟨mode, true⟩ := by
  rcases r.next_cases n with h | ⟨h, -⟩
  · exact h.consent
  · rw [h]
    exact .inl rfl

/-- What is decided stays. -/
theorem consent_stays (hmn : m ≤ n) (ha : (r.session m).consent.askedOnce = true) :
    (r.session n).consent = (r.session m).consent := by
  induction hmn with
  | refl => rfl
  | @step n _ ih =>
    rcases r.consent_next n with h | ⟨h, -⟩
    · exact h.trans ih
    · rw [ih, ha] at h
      cases h

/-- Before anything is decided, nothing was. -/
theorem consent_before (hmn : m ≤ n) (ha : (r.session n).consent.askedOnce = false) :
    (r.session m).consent = .fresh := by
  refine (r.latched m).eq_fresh ?_
  cases hm : (r.session m).consent.askedOnce with
  | false => rfl
  | true =>
    rw [r.consent_stays hmn hm, hm] at ha
    cases ha

/-- If something is decided at a moment, there was a first moment at which it was. -/
theorem exists_decided (ha : (r.session n).consent.askedOnce = true) :
    ∃ k < n, (r.session k).consent = .fresh ∧
      ∃ mode, mode.isDecided = true ∧ (r.session (k + 1)).consent = ⟨mode, true⟩ := by
  induction n with
  | zero => cases ha
  | succ n ih =>
    cases hn : (r.session n).consent.askedOnce with
    | true =>
      obtain ⟨k, hk, hrest⟩ := ih hn
      exact ⟨k, Nat.lt_succ_of_lt hk, hrest⟩
    | false =>
      refine ⟨n, Nat.lt_succ_self n, r.consent_before (Nat.le_refl n) hn, ?_⟩
      rcases r.consent_next n with h | ⟨-, h⟩
      · rw [h, hn] at ha
        cases ha
      · exact h

/-- Over a whole run the consent changes at most once, from nothing decided to a mode. -/
theorem consent_history :
    (∀ n, (r.session n).consent = .fresh) ∨
      ∃ k mode, mode.isDecided = true ∧ (∀ n ≤ k, (r.session n).consent = .fresh) ∧
        ∀ n > k, (r.session n).consent = ⟨mode, true⟩ := by
  by_cases h : ∃ n, (r.session n).consent.askedOnce = true
  · obtain ⟨n, ha⟩ := h
    obtain ⟨k, -, hk, mode, hm, hk'⟩ := r.exists_decided ha
    refine .inr ⟨k, mode, hm, fun n hn => r.consent_before hn (by rw [hk]; rfl), fun n hn => ?_⟩
    rw [r.consent_stays hn (by rw [hk']), hk']
  · refine .inl fun n => r.consent_before (Nat.le_refl n) ?_
    simpa using fun ha => h ⟨n, ha⟩

end Run
end PolicyGate
