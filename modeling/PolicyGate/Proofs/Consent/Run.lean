import PolicyGate.Proofs.Consent.Progress

/-!
# Runs of a session

A run is a new session and any sequence of events at all. An event that does not fit is passed over, so
there is nothing to assume of the sequence: every interleaving of calls, replies, timeouts, failures,
cancellations, decisions from outside and new rules is a run, and so are all that never end.

Moment `n` is the one after the first `n` events. What holds of every session is shown once by
`Run.invariant`, what a call never loses again by `Run.stays`. The rest of the module names the moments
that the theorems are about: a call begins, its action is handed over for execution, it completes.
-/

namespace PolicyGate

/-- A run: how the session is set up, its rules at first, and what happens, event by event. -/
structure Run where
  config : GateConfig
  rules : RuleSet
  event : Nat → Event

namespace Run

open Session

variable (r : Run) {m n i : Nat} {call : Call} {d : Decision} {p : Phase}

/-- The session at a moment. -/
def session (r : Run) : Nat → Session
  | 0 => { config := r.config, rules := r.rules }
  | n + 1 => (r.session n).after (r.event n)

/-- The run of a list of events, after which nothing happens any more. -/
def ofList (config : GateConfig) (rules : RuleSet) (events : List Event) : Run where
  config := config
  rules := rules
  event n := events.getD n (.decide none)

theorem next_of_step {t : Session} (h : (r.session n).step (r.event n) = some t) :
    r.session (n + 1) = t := by
  rw [session, Session.after, h]
  rfl

/-- From one moment to the next there is an effect, or nothing happens. -/
theorem next_cases (n : Nat) :
    Change (r.session n) (r.event n) (r.session (n + 1)) ∨
      r.session (n + 1) = r.session n ∧
        ((r.event n).decision?.isSome → (r.session n).consent.askedOnce = true) :=
  after_cases _ _

/-- What a new session has and every effect keeps, holds at every moment. -/
theorem invariant {P : Session → Prop} (init : ∀ config rules, P { config, rules })
    (step : ∀ {s e t}, P s → Change s e t → P t) (n : Nat) : P (r.session n) := by
  induction n with
  | zero => exact init r.config r.rules
  | succ n ih =>
    rcases r.next_cases n with h | ⟨h, -⟩
    · exact step ih h
    · rw [h]
      exact ih

theorem session_config (n : Nat) : (r.session n).config = r.config := by
  induction n with
  | zero => rfl
  | succ n ih =>
    rcases r.next_cases n with h | ⟨h, -⟩
    · rw [h.config, ih]
    · rw [h, ih]

/-- Where a call stands one moment later. -/
theorem call?_next (hi : (r.session n).call? i = some (call, p)) :
    (r.session (n + 1)).call? i = some (call, p) ∨
      ∃ u q, Progress (r.session n) i call (r.event n) p u q ∧
        r.session (n + 1) = u.land i call q := by
  rcases r.next_cases n with h | ⟨h, -⟩
  · exact h.call? hi
  · rw [h]
    exact .inl hi

/-- Where a call came from one moment earlier. -/
theorem call?_next_cases {q : Phase} (hi : (r.session (n + 1)).call? i = some (call, q)) :
    (r.session n).call? i = some (call, q) ∨ ((r.session n).call? i = none ∧ q = .ready) ∨
      ∃ p u, (r.session n).call? i = some (call, p) ∧
        Progress (r.session n) i call (r.event n) p u q ∧ r.session (n + 1) = u.land i call q := by
  rcases r.next_cases n with h | ⟨h, -⟩
  · exact h.call?_cases hi
  · rw [h] at hi
    exact .inl hi

/-- What is true of a call's phase and survives its progress stays true. -/
theorem stays {P : Phase → Prop}
    (keep : ∀ {s e p u q}, P p → Progress s i call e p u q → P q) (hmn : m ≤ n)
    (hi : (r.session m).call? i = some (call, p)) (hp : P p) :
    ∃ q, (r.session n).call? i = some (call, q) ∧ P q := by
  induction hmn with
  | refl => exact ⟨p, hi, hp⟩
  | step _ ih =>
    obtain ⟨q, hq, hPq⟩ := ih
    rcases r.call?_next hq with h | ⟨u, q', h, hs⟩
    · exact ⟨q, h, hPq⟩
    · rw [hs]
      exact ⟨q', h.call?_self hq, keep hPq h⟩

/-- The outcome of a call is final. -/
theorem done_stays {res : GateResult} (hmn : m ≤ n)
    (hi : (r.session m).call? i = some (call, .done res)) :
    (r.session n).call? i = some (call, .done res) := by
  obtain ⟨q, hq, rfl⟩ := r.stays (P := (· = .done res))
    (by rintro s e p u q rfl h; exact absurd h Progress.not_done) hmn hi rfl
  exact hq

/-- And so is its failure. -/
theorem failed_stays {f : CallFailure} (hmn : m ≤ n)
    (hi : (r.session m).call? i = some (call, .failed f)) :
    (r.session n).call? i = some (call, .failed f) := by
  obtain ⟨q, hq, rfl⟩ := r.stays (P := (· = .failed f))
    (by rintro s e p u q rfl h; exact absurd h Progress.not_failed) hmn hi rfl
  exact hq

/-- A call never goes back to its beginning. -/
theorem not_ready_stays (hmn : m ≤ n) (hi : (r.session m).call? i = some (call, p))
    (hp : p ≠ .ready) : (r.session n).call? i ≠ some (call, .ready) := by
  obtain ⟨q, hq, hne⟩ := r.stays (P := (· ≠ .ready)) (fun _ h => h.ne_ready) hmn hi hp
  rw [hq]
  simp [hne]

/-- A call stays the same call. -/
theorem call_unique {call' : Call} {p' : Phase} (hm : (r.session m).call? i = some (call, p))
    (hn : (r.session n).call? i = some (call', p')) : call = call' := by
  rcases Nat.le_total m n with hmn | hmn
  · obtain ⟨q, hq, -⟩ := r.stays (P := fun _ => True) (fun _ _ => trivial) hmn hm trivial
    rw [hn] at hq
    simp only [Option.some.injEq, Prod.mk.injEq] at hq
    exact hq.1.symm
  · obtain ⟨q, hq, -⟩ := r.stays (P := fun _ => True) (fun _ _ => trivial) hmn hn trivial
    rw [hm] at hq
    simp only [Option.some.injEq, Prod.mk.injEq] at hq
    exact hq.1

/-! ## Moments -/

/-- Call `i` begins at moment `m`. -/
def Begins (m i : Nat) (call : Call) : Prop :=
  r.event m = .begin i ∧ (r.session m).call? i = some (call, .ready)

/-- At moment `n` the action of call `i` is handed over for execution. -/
def Executes (n i : Nat) (call : Call) (d : Decision) : Prop :=
  (r.event n).subject? = some i ∧ (r.session (n + 1)).call? i = some (call, .running d) ∧
    (r.session (n + 1)).ran = (r.session n).ran ++ [(call.action, call.args)]

/-- At moment `n` call `i` gets its outcome. -/
def Completes (n i : Nat) (call : Call) (res : GateResult) : Prop :=
  (r.session n).call? i ≠ some (call, .done res) ∧
    (r.session (n + 1)).call? i = some (call, .done res)

/-- At moment `n` call `i` ends without an outcome. -/
def Fails (n i : Nat) (call : Call) (f : CallFailure) : Prop :=
  (r.session n).call? i ≠ some (call, .failed f) ∧
    (r.session (n + 1)).call? i = some (call, .failed f)

/-- At moment `n` the prompt of call `i` is put before the person. -/
def Shows (n i : Nat) (prompt : Prompt) : Prop :=
  r.event n = .show_ i ∧ (r.session (n + 1)).asked = (r.session n).asked ++ [prompt]

/-- A call that has just got to a phase other than the beginning got there by progress. -/
theorem exists_progress {q : Phase} (hnot : (r.session n).call? i ≠ some (call, q))
    (hi : (r.session (n + 1)).call? i = some (call, q)) (hq : q ≠ .ready) :
    ∃ p u, (r.session n).call? i = some (call, p) ∧
      Progress (r.session n) i call (r.event n) p u q ∧ r.session (n + 1) = u.land i call q := by
  rcases r.call?_next_cases hi with hold | ⟨-, hnew⟩ | hp
  · exact absurd hold hnot
  · exact absurd hnew hq
  · exact hp

theorem Completes.progress {r : Run} {res : GateResult} (h : r.Completes n i call res) :
    ∃ p u, (r.session n).call? i = some (call, p) ∧
      Progress (r.session n) i call (r.event n) p u (.done res) ∧
        r.session (n + 1) = u.land i call (.done res) :=
  r.exists_progress h.1 h.2 (by simp)

theorem Fails.progress {r : Run} {f : CallFailure} (h : r.Fails n i call f) :
    ∃ p u, (r.session n).call? i = some (call, p) ∧
      Progress (r.session n) i call (r.event n) p u (.failed f) ∧
        r.session (n + 1) = u.land i call (.failed f) :=
  r.exists_progress h.1 h.2 (by simp)

/-- An event of a call has no effect, or the call makes progress by it. -/
theorem subject_cases {r : Run} (h : (r.event n).subject? = some i) :
    r.session (n + 1) = r.session n ∨
      ∃ call p u q, (r.session n).call? i = some (call, p) ∧
        Progress (r.session n) i call (r.event n) p u q ∧ r.session (n + 1) = u.land i call q :=
  (r.session n).after_subject_cases h

/-- A call that begins leaves its beginning. -/
theorem Begins.progress {r : Run} (h : r.Begins m i call) :
    ∃ u q, Progress (r.session m) i call (.begin i) .ready u q ∧
      r.session (m + 1) = u.land i call q := by
  obtain ⟨he, hi⟩ := h
  obtain ⟨u, q, hp, ht⟩ := start_eq_land (r.session m) i call
  refine ⟨u, q, hp, ?_⟩
  rw [← ht]
  exact r.next_of_step (by rw [he, step_begin hi])

theorem Begins.not_ready {r : Run} (h : r.Begins m i call) (hmn : m < n) :
    (r.session n).call? i ≠ some (call, .ready) := by
  obtain ⟨u, q, hp, ht⟩ := h.progress
  have hq : (r.session (m + 1)).call? i = some (call, q) := by
    rw [ht]
    exact hp.call?_self h.2
  exact r.not_ready_stays hmn hq hp.ne_ready

/-- A call begins once. -/
theorem Begins.unique {r : Run} {m' : Nat} {call' : Call} (h : r.Begins m i call)
    (h' : r.Begins m' i call') : m = m' := by
  obtain rfl := r.call_unique h.2 h'.2
  rcases Nat.lt_trichotomy m m' with hlt | heq | hgt
  · exact absurd h'.2 (h.not_ready hlt)
  · exact heq
  · exact absurd h.2 (h'.not_ready hgt)

end Run
end PolicyGate
