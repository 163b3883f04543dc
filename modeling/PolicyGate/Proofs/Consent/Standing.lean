import PolicyGate.Proofs.Consent.Latch

/-!
# What a call's phase says about its past

A call decides when it begins whether it needs a person's consent, and acts on it much later, after it has
waited for its turn and for a reply. `Standing` is what remains true over these waits: a call that waits has
begun, its action changes state and the rules did not deny it; a call whose action is being executed has
begun, and if its action changes state then, besides, the session has decided to execute.

The invariant speaks of two moments, so it is one of runs and not of sessions. Its step (`standing`)
follows the ways of progress one by one. Everything about what calls are allowed to do is read off it.
-/

namespace PolicyGate

/-- The outcome is what the decision of a session prescribes. -/
def GateResult.Obeys (res : GateResult) (mode : ConsentMode) (call : Call) (d : Decision) : Prop :=
  match mode with
  | .execute => ∃ answer, res = .executed d answer
  | .simulate => res = .simulated call d
  | .deny => res = .blocked call d .consentDeclined
  | .undecided => False

theorem GateResult.executed_status (d : Decision) (answer : Except String Value) :
    (GateResult.executed d answer).status = .executed := by
  cases answer <;> rfl

namespace Phase

variable {mode : ConsentMode} {call : Call} {d : Decision} {res : GateResult}

theorem obeys_of_following (h : following mode call d = .done res) (hm : mode.isDecided = true) :
    res.Obeys mode call d := by
  cases mode with
  | undecided => cases hm
  | execute => cases h
  | simulate => exact (Phase.done.inj h).symm
  | deny => exact (Phase.done.inj h).symm

/-- Whoever follows a decision has no executed outcome yet. -/
theorem status_of_following (h : following mode call d = .done res) : res.status ≠ .executed := by
  cases mode with
  | execute => cases h
  | simulate | deny | undecided =>
    obtain rfl := Phase.done.inj h
    exact nofun

theorem mode_of_following (h : following mode call d = .done res)
    (hres : res.status = .simulated) : mode = .simulate := by
  cases mode with
  | simulate => rfl
  | execute => cases h
  | deny | undecided =>
    obtain rfl := Phase.done.inj h
    cases hres

/-- The action has been handed over, or the call is over without an outcome. -/
def Ran : Phase → Prop
  | .running _ | .failed _ => True
  | .done res => res.status = .executed
  | .ready | .queued _ | .asking _ _ _ => False

end Phase

namespace Run

open Session

variable (r : Run) {m n i : Nat} {call : Call} {d : Decision} {p : Phase} {res : GateResult}

/-- Call `i` began before moment `n`, and needed a person's consent. -/
def Sought (n i : Nat) (call : Call) (d : Decision) : Prop :=
  ∃ m < n, r.Begins m i call ∧ (r.session m).Seeks call d

/-- Call `i` began before moment `n`, the rules decided on it, and if its action changes state then they
did not deny it and the session has decided to execute. -/
def Authorized (n i : Nat) (call : Call) (d : Decision) : Prop :=
  ∃ m < n, r.Begins m i call ∧ (r.session m).verdictOn call = .ok d ∧
    ((r.session m).isStateChanging call.action = true →
      d.verdict ≠ .deny ∧ (r.session n).consent = ⟨.execute, true⟩)

/-- What is known of a call in the phase where it stands. -/
def Standing (n i : Nat) (call : Call) : Phase → Prop
  | .queued d | .asking d _ _ => r.Sought n i call d
  | .running d => r.Authorized n i call d
  | .ready | .done _ | .failed _ => True

variable {r}

theorem Sought.later (h : r.Sought n i call d) : r.Sought (n + 1) i call d := by
  obtain ⟨m, hm, hrest⟩ := h
  exact ⟨m, Nat.lt_succ_of_lt hm, hrest⟩

theorem Standing.later (h : r.Standing n i call p) : r.Standing (n + 1) i call p := by
  cases p with
  | queued d => exact Sought.later h
  | asking d attempt shown => exact Sought.later h
  | running d =>
    obtain ⟨m, hm, hb, he, hc⟩ := h
    refine ⟨m, Nat.lt_succ_of_lt hm, hb, he, fun hs => ⟨(hc hs).1, ?_⟩⟩
    have hn := (hc hs).2
    rw [r.consent_stays (Nat.le_succ n) (by rw [hn]), hn]
  | ready | done _ | failed _ => trivial

/-- A call that follows the decision of the session may do so. -/
theorem Sought.standing_following {mode : ConsentMode} (h : r.Sought n i call d)
    (hc : (r.session n).consent = ⟨mode, true⟩) :
    r.Standing n i call (.following mode call d) := by
  cases mode with
  | execute =>
    obtain ⟨m, hm, hb, hs⟩ := h
    exact ⟨m, hm, hb, hs.decided, fun _ => ⟨hs.undenied, hc⟩⟩
  | simulate | deny | undecided => trivial

/-- The step: whoever makes progress stands as described. -/
theorem Standing.progress {u : Session} {q : Phase}
    (hi : (r.session n).call? i = some (call, p)) (h : r.Standing n i call p)
    (hp : Progress (r.session n) i call (r.event n) p u q)
    (hs : r.session (n + 1) = u.land i call q) : r.Standing (n + 1) i call q := by
  have hc : (r.session (n + 1)).consent = u.consent := by rw [hs, land_consent]
  generalize he : r.event n = e at hp
  -- the calls that begin just now, for the first group of cases
  have now : ∀ {d}, e = .begin i → p = .ready → (r.session n).Seeks call d →
      r.Sought (n + 1) i call d := by
    rintro d rfl rfl hd
    exact ⟨n, Nat.lt_succ_self n, ⟨he, hi⟩, hd⟩
  cases hp with
  | undecidable => trivial
  | harmless hd hh =>
    -- nothing is to be shown of consent, because the action changes no state
    refine ⟨n, Nat.lt_succ_self n, ⟨he, hi⟩, hd, fun hs => ?_⟩
    rw [hh] at hs
    cases hs
  | denied => trivial
  | late hd ha =>
    refine (now rfl rfl hd).standing_following ?_
    rw [hc, ← ha]
  | alone => trivial
  | enter hd => exact now rfl rfl hd
  | line hd => exact now rfl rfl hd
  | pass _ _ ha =>
    refine (Sought.later h).standing_following ?_
    rw [hc, ← ha]
  | takeTurn => exact Sought.later h
  | show_ => exact Sought.later h
  | settle => exact (Sought.later h).standing_following hc
  | retry => exact Sought.later h
  | decline => exact (Sought.later h).standing_following hc
  | abandon | collide | promptFails | finish => trivial
  | cancelReady | cancelQueued | cancelRunning => trivial

variable (r) in
/-- Every call stands as described, at every moment. -/
theorem standing (hi : (r.session n).call? i = some (call, p)) : r.Standing n i call p := by
  induction n generalizing p with
  | zero => simp [session, Session.call?] at hi
  | succ n ih =>
    rcases r.call?_next_cases hi with h | ⟨-, rfl⟩ | ⟨p', u, h, hp, hs⟩
    · exact (ih h).later
    · trivial
    · exact Standing.progress h (ih h) hp hs

/-! ## What follows for actions that are executed -/

/-- Actions are executed by calls only. -/
theorem exists_executes (h : (r.session (n + 1)).ran ≠ (r.session n).ran) :
    ∃ i call d, r.Executes n i call d := by
  rcases r.next_cases n with hc | ⟨hs, -⟩
  · generalize ht : r.session (n + 1) = t at hc h
    generalize he : r.event n = e at hc
    cases hc with
    | @call i call e p u q hi hp =>
      rcases land_ran u i call q with hr | ⟨d, rfl, hr⟩
      · rw [hr, hp.ran] at h
        exact absurd rfl h
      · refine ⟨i, call, d, he ▸ hp.subject?, ?_, ?_⟩
        · rw [ht]
          exact hp.call?_self hi
        · rw [ht, hr, hp.ran]
    | arrive _ | speak _ _ | reload _ => exact absurd rfl h
  · rw [hs] at h
    exact absurd rfl h

/-- Once an action was handed over, its call cannot end in another way. -/
theorem ran_stays (hmn : m ≤ n) (hi : (r.session m).call? i = some (call, p)) (hp : p.Ran) :
    ∃ q, (r.session n).call? i = some (call, q) ∧ q.Ran := by
  refine r.stays (P := Phase.Ran) ?_ hmn hi hp
  rintro s e p u q hp h
  cases h with
  | finish => exact GateResult.executed_status _ _
  | cancelRunning => trivial
  | _ => exact hp.elim

/-- A call that is simulated or blocked never executes its action, neither before nor afterwards. -/
theorem not_executes (hi : (r.session n).call? i = some (call, .done res))
    (hres : res.status ≠ .executed) (k : Nat) (call' : Call) (d : Decision) :
    ¬ r.Executes k i call' d := by
  rintro ⟨-, hk, -⟩
  obtain rfl := r.call_unique hi hk
  rcases Nat.le_total (k + 1) n with hkn | hnk
  · obtain ⟨q, hq, hran⟩ := ran_stays hkn hk trivial
    rw [hi] at hq
    simp only [Option.some.injEq, Prod.mk.injEq, true_and] at hq
    subst hq
    exact hres hran
  · rw [r.done_stays hnk hi] at hk
    cases hk

/-! ## What follows for outcomes -/

/-- A call that sought consent and gets its outcome when the session has decided does as decided. -/
theorem Completes.obeys (h : r.Completes n i call res) (hb : r.Begins m i call)
    (hd : (r.session m).Seeks call d) (ha : (r.session (n + 1)).consent.askedOnce = true) :
    res.Obeys (r.session (n + 1)).consent.mode call d := by
  have hdec := (r.latched (n + 1)).isDecided ha
  -- the call has one beginning, so what is known of its past is about this one
  have same : ∀ {m' d'}, r.Begins m' i call → (r.session m').verdictOn call = .ok d' →
      m' = m ∧ d' = d := by
    intro m' d' hb' hd'
    obtain rfl := hb'.unique hb
    rw [hd.decided] at hd'
    exact ⟨rfl, (Except.ok.inj hd').symm⟩
  obtain ⟨p, u, hi, hp, hs⟩ := h.progress
  have hst := r.standing hi
  have hc : (r.session (n + 1)).consent = u.consent := by rw [hs, land_consent]
  rw [hc] at ha hdec ⊢
  generalize he : r.event n = e at hp
  generalize hq : Phase.done res = q at hp
  cases hp with
  | denied hv hch hdeny =>
    obtain ⟨rfl, rfl⟩ := same ⟨he, hi⟩ hv
    exact absurd hdeny hd.undenied
  | late hs' =>
    obtain ⟨rfl, rfl⟩ := same ⟨he, hi⟩ hs'.decided
    exact Phase.obeys_of_following hq.symm hdec
  | alone _ hna =>
    rw [hna] at ha
    cases ha
  | pass | settle =>
    -- it waited for its turn or for the reply, and sought consent when it began
    obtain ⟨m', -, hb', hs'⟩ := hst
    obtain ⟨rfl, rfl⟩ := same hb' hs'.decided
    exact Phase.obeys_of_following hq.symm hdec
  | decline =>
    obtain ⟨m', -, hb', hs'⟩ := hst
    obtain ⟨rfl, rfl⟩ := same hb' hs'.decided
    exact Phase.obeys_of_following hq.symm rfl
  | @finish d' answer =>
    -- its action was handed over, which takes a session that has decided to execute
    obtain ⟨m', -, hb', hv, hex⟩ := hst
    obtain ⟨rfl, rfl⟩ := same hb' hv
    rw [(hex hd.changes).2]
    exact ⟨answer, Phase.done.inj hq⟩
  | _ => cases hq

end Run
end PolicyGate
