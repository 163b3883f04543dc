import PolicyGate.Proofs.Consent.Turn

/-!
# How often a person is asked

A call that asks shows its prompts one after another, numbered from one, and stops after a fixed number of
attempts (`Run.prompted`). Prompts of two calls are never before the person together, because only the
holder of the turn asks.

The bound on the whole session (`Run.withinBudget`) is a matter of how an asking can end
(`Session.Progress.asking_ends`). It leaves a session that has decided, or the prompter failed. In a session
that has decided nobody asks again, so only a failure can give a further call its full number of attempts.
-/

namespace PolicyGate

theorem GateConfig.attempts_eq (c : GateConfig) : (c.attempts : Int) = max 1 c.maxPrompts := by
  unfold attempts
  omega

/-- The prompts of a call that has asked a number of times. -/
def Call.prompts (call : Call) (d : Decision) (times : Nat) : List Prompt :=
  (List.range' 1 times).map fun attempt => ⟨call.action, call.args, d, attempt⟩

theorem Call.prompts_succ (call : Call) (d : Decision) (times : Nat) :
    call.prompts d (times + 1) =
      call.prompts d times ++ [⟨call.action, call.args, d, times + 1⟩] := by
  simp [prompts, List.range'_1_concat, Nat.add_comm]

/-! ## The bound on a session -/

namespace Session

variable {s t u : Session} {f f' i : Nat} {call : Call} {e : Event} {p q : Phase}

/-- The asking of a call ends in a session that has decided, or because the prompter fails. -/
theorem Progress.asking_ends (h : Progress s i call e p u q) (hp : p.isAsking = true)
    (hq : q.isAsking = false) :
    u.consent.askedOnce = true ∨
      ∃ d attempt message, p = .asking d attempt true ∧ e = .promptFails i message := by
  cases h with
  | settle | decline | abandon => exact .inl rfl
  | collide _ ha => exact .inl ha
  | promptFails => exact .inr ⟨_, _, _, rfl, rfl⟩
  | show_ | retry => cases hq
  | _ => cases hp

/-- The prompts shown are no more than `f` failures of the prompter allow. While a call asks, its own
prompts come on top of those of the calls that failed. -/
structure WithinBudget (s : Session) (f : Nat) : Prop where
  free : s.holder = none → s.consent.askedOnce = false → s.asked.length ≤ f * s.config.attempts
  asking : ∀ {i call d attempt shown}, s.call? i = some (call, .asking d attempt shown) →
    attempt ≤ s.config.attempts ∧
      s.asked.length + (if shown then 0 else 1) ≤ f * s.config.attempts + attempt
  total : s.asked.length ≤ (f + 1) * s.config.attempts

theorem withinBudget_init (config : GateConfig) (rules : RuleSet) :
    ({ config, rules } : Session).WithinBudget 0 where
  free _ _ := Nat.zero_le _
  asking hi := by simp [Session.call?] at hi
  total := Nat.zero_le _

theorem WithinBudget.mono (h : s.WithinBudget f) (hf : f ≤ f') : s.WithinBudget f' := by
  have hle : f * s.config.attempts ≤ f' * s.config.attempts := Nat.mul_le_mul_right _ hf
  refine ⟨fun hh ha => Nat.le_trans (h.free hh ha) hle, fun hi => ?_, ?_⟩
  · obtain ⟨hatt, hlen⟩ := h.asking hi
    exact ⟨hatt, Nat.le_trans hlen (Nat.add_le_add_right hle _)⟩
  · exact Nat.le_trans h.total (Nat.mul_le_mul_right _ (Nat.succ_le_succ hf))

/-- What the call that makes progress adds, if it asks, is within its own attempts. -/
theorem WithinBudget.progress_self (hb : s.WithinBudget f) (hi : s.call? i = some (call, p))
    (h : Progress s i call e p u q) :
    (∀ {d attempt shown}, q = .asking d attempt shown → attempt ≤ s.config.attempts ∧
      u.asked.length + (if shown then 0 else 1) ≤ f * s.config.attempts + attempt) ∧
    u.asked.length ≤ (f + 1) * s.config.attempts := by
  have hmul : (f + 1) * s.config.attempts = f * s.config.attempts + s.config.attempts :=
    Nat.succ_mul _ _
  cases h with
  | enter _ ha _ hh | takeTurn hh _ ha =>
    refine ⟨?_, hb.total⟩
    rintro d attempt shown ⟨⟩
    exact ⟨s.config.one_le_attempts, Nat.succ_le_succ (hb.free hh ha)⟩
  -- the prompt that is shown uses up the one that was left for this attempt
  | show_ =>
    obtain ⟨hatt, hlen⟩ := hb.asking hi
    simp only [Bool.false_eq_true, if_false] at hlen
    constructor
    · rintro d attempt shown ⟨⟩
      exact ⟨hatt, by simpa using hlen⟩
    · simp only [List.length_append, List.length_singleton]
      omega
  | retry _ hl =>
    obtain ⟨-, hlen⟩ := hb.asking hi
    refine ⟨?_, hb.total⟩
    rintro d attempt shown ⟨⟩
    simp only [if_true, Bool.false_eq_true, if_false] at hlen ⊢
    exact ⟨hl, by omega⟩
  | late | pass | settle | decline =>
    exact ⟨fun hq => absurd hq (Phase.following_ne_asking _ _ _ _ _ _), hb.total⟩
  | _ => exact ⟨fun hq => by simp at hq, hb.total⟩

/-- The turn is free and nothing is decided: then the prompts of all calls that asked are paid for by
failures. -/
theorem WithinBudget.progress_free (hb : s.WithinBudget f) (hs : s.TurnHeld)
    (hi : s.call? i = some (call, p)) (h : Progress s i call e p u q) (hf : f ≤ f')
    (hfail : ∀ d attempt message, p = .asking d attempt true → e = .promptFails i message → f < f')
    (hu : u.holder = none) (ha : u.consent.askedOnce = false) :
    u.asked.length ≤ f' * s.config.attempts := by
  have hle : f * s.config.attempts ≤ f' * s.config.attempts := Nat.mul_le_mul_right _ hf
  rcases h.turn with ⟨-, hh, hc⟩ | ⟨-, hh, -⟩ | ⟨hp, hq, -⟩
  · -- nobody had the turn before, so this call does not ask
    have hfree : s.holder = none := hh ▸ hu
    have hp : p.isAsking = false := hs.not_asking hi (by simp [hfree])
    rw [h.asked_of_not_asking hp]
    exact Nat.le_trans (hb.free hfree (hc ▸ ha)) hle
  · rw [hu] at hh
    cases hh
  · rcases h.asking_ends hp hq with hdec | ⟨d, attempt, message, rfl, rfl⟩
    · rw [ha] at hdec
      cases hdec
    · obtain ⟨hatt, hlen⟩ := hb.asking hi
      have hsame : u.asked = s.asked := by
        rcases h.asked with hu | ⟨_, _, hp', -⟩
        · exact hu
        · cases hp'
      have hmul : (f + 1) * s.config.attempts ≤ f' * s.config.attempts :=
        Nat.mul_le_mul_right _ (hfail _ _ _ rfl rfl)
      rw [Nat.succ_mul] at hmul
      rw [hsame]
      simp only [if_true] at hlen
      omega

/-- The step of one call. A failure of its prompter has to be counted, and nothing else. -/
theorem withinBudget_progress (hb : s.WithinBudget f) (hs : s.TurnHeld)
    (hi : s.call? i = some (call, p)) (h : Progress s i call e p u q) (hf : f ≤ f')
    (hfail : ∀ d attempt message, p = .asking d attempt true → e = .promptFails i message →
      f < f') : (u.land i call q).WithinBudget f' := by
  have hb' := hb.mono hf
  obtain ⟨hself, htotal⟩ := hb'.progress_self hi h
  refine ⟨?_, ?_, ?_⟩
  · simp only [land_holder, land_consent, land_asked, land_config, h.config]
    exact hb.progress_free hs hi h hf hfail
  · intro j callj d attempt shown hj
    simp only [land_asked, land_config, h.config]
    by_cases hji : j = i
    · subst hji
      rw [h.call?_self hi] at hj
      simp only [Option.some.injEq, Prod.mk.injEq] at hj
      exact hself hj.2
    · -- another call has the turn, so this one does not ask
      rw [h.call?_ne hji] at hj
      have hhold : s.holder = some j := (hs j).mpr ⟨callj, _, hj, rfl⟩
      have hp : p.isAsking = false := hs.not_asking hi (by simpa [hhold] using hji)
      rw [h.asked_of_not_asking hp]
      exact hb'.asking hj
  · simp only [land_asked, land_config, h.config]
    exact htotal

end Session

namespace Run

open Session

variable {r : Run} {n i : Nat} {call : Call} {d : Decision} {p : Phase}

/-- At moment `n` the prompter fails: it ends in an error of its own while a prompt of a call is pending. -/
def prompterFails (r : Run) (n : Nat) : Bool :=
  match r.event n with
  | .promptFails i _ =>
    match (r.session n).call? i with
    | some (_, .asking _ _ true) => true
    | _ => false
  | _ => false

/-- How often the prompter failed before moment `n`. -/
def prompterFailures (r : Run) (n : Nat) : Nat := (List.range n).countP r.prompterFails

theorem prompterFailures_succ (r : Run) (n : Nat) :
    r.prompterFailures (n + 1) = r.prompterFailures n + (if r.prompterFails n then 1 else 0) := by
  simp [prompterFailures, List.range_succ, List.countP_append, List.countP_singleton]

/-- The prompter fails exactly when a call ends in an error of the prompter. -/
theorem prompterFails_iff :
    r.prompterFails n = true ↔ ∃ i call message, r.Fails n i call (.prompter message) := by
  constructor
  · intro h
    unfold prompterFails at h
    split at h
    · rename_i i message he
      split at h
      · rename_i call d attempt hi
        have hp : Progress (r.session n) i call (.promptFails i message) (.asking d attempt true)
            _ _ := .promptFails
        have hs : r.session (n + 1)
            = (r.session n).release.move i call (.failed (.prompter message)) :=
          r.next_of_step (by rw [he]; simp only [step, hi])
        refine ⟨i, call, message, by simp [hi], ?_⟩
        rw [hs]
        exact hp.call?_self hi
      · cases h
    · cases h
  · rintro ⟨i, call, message, h⟩
    obtain ⟨p, u, hi, hp, -⟩ := h.progress
    -- no other progress ends in an error of the prompter
    generalize he : r.event n = e at hp
    generalize hq : Phase.failed (.prompter message) = q at hp
    cases hp with
    | promptFails => simp [prompterFails, he, hi]
    | late | pass | settle | decline => exact absurd hq.symm (Phase.following_ne_failed _ _ _ _)
    | _ => simp at hq

/-- The run: the prompts of a session are within the budget that the failures of the prompter leave. -/
theorem withinBudget (r : Run) (n : Nat) : (r.session n).WithinBudget (r.prompterFailures n) := by
  induction n with
  | zero => exact withinBudget_init r.config r.rules
  | succ n ih =>
    -- a failure at this moment only adds to the budget
    have hf : r.prompterFailures n ≤ r.prompterFailures (n + 1) := by
      rw [prompterFailures_succ]
      exact Nat.le_add_right _ _
    have ih' := ih.mono hf
    rcases r.next_cases n with hc | ⟨hs, -⟩
    · have hheld := r.turnHeld n
      generalize ht : r.session (n + 1) = t at hc
      generalize he : r.event n = e at hc
      cases hc with
      | @call i call e p u q hi hp =>
        -- a call that ends without a decision leaves the turn free, at the cost of one failure
        refine withinBudget_progress ih hheld hi hp hf ?_
        rintro d attempt message rfl rfl
        have hfails : r.prompterFails n = true := by simp [prompterFails, he, hi]
        rw [prompterFailures_succ, hfails]
        exact Nat.lt_succ_self _
      | arrive new =>
        refine ⟨ih'.free, fun hi => ?_, ih'.total⟩
        rcases (Change.arrive new).call?_cases hi with h | ⟨-, h⟩ | ⟨_, _, _, h, -⟩
        · exact ih'.asking h
        · cases h
        · cases h.subject?
      | speak _ _ => exact ⟨nofun, ih'.asking, ih'.total⟩
      | reload _ => exact ⟨ih'.free, ih'.asking, ih'.total⟩
    · rw [hs]
      exact ih'

/-! ## The prompts of one call -/

/-- The prompts that event `n` puts before the person. -/
def newPrompts (r : Run) (n : Nat) : List Prompt :=
  (r.session (n + 1)).asked.drop (r.session n).asked.length

/-- The prompts of call `i` that were shown before moment `n`, in order. -/
def promptsOf (r : Run) (n i : Nat) : List Prompt :=
  (List.range n).flatMap fun k => if (r.event k).subject? = some i then r.newPrompts k else []

theorem promptsOf_succ (r : Run) (n i : Nat) :
    r.promptsOf (n + 1) i =
      r.promptsOf n i ++ (if (r.event n).subject? = some i then r.newPrompts n else []) := by
  simp [promptsOf, List.range_succ, List.flatMap_append]

/-- An event shows no prompt, or one, and then that of the call which it belongs to. -/
theorem newPrompts_cases (r : Run) (n : Nat) :
    (r.session (n + 1)).asked = (r.session n).asked ++ r.newPrompts n ∧
      (r.newPrompts n = [] ∨ ∃ i call d attempt, (r.event n).subject? = some i ∧
        (r.session n).call? i = some (call, .asking d attempt false) ∧
        (r.session (n + 1)).call? i = some (call, .asking d attempt true)) := by
  have unchanged : (r.session (n + 1)).asked = (r.session n).asked →
      (r.session (n + 1)).asked = (r.session n).asked ++ r.newPrompts n ∧ r.newPrompts n = [] := by
    intro h
    have hnil : r.newPrompts n = [] := by rw [newPrompts, h, List.drop_length]
    exact ⟨by rw [hnil, List.append_nil, h], hnil⟩
  cases hsub : (r.event n).subject? with
  | none =>
    -- an event of no call shows nothing
    have h : (r.session (n + 1)).asked = (r.session n).asked := by
      rcases r.next_cases n with hc | ⟨hs, -⟩
      · generalize r.session (n + 1) = t at hc
        generalize r.event n = e at hc hsub
        cases hc with
        | call _ hp =>
          rw [hp.subject?] at hsub
          cases hsub
        | arrive _ | speak _ _ | reload _ => rfl
      · rw [hs]
    exact ⟨(unchanged h).1, .inl (unchanged h).2⟩
  | some i =>
    rcases subject_cases hsub with hs | ⟨call, p, u, q, hi, hp, hs⟩
    · have h : (r.session (n + 1)).asked = (r.session n).asked := by rw [hs]
      exact ⟨(unchanged h).1, .inl (unchanged h).2⟩
    · have hu : (r.session (n + 1)).asked = u.asked := by rw [hs, land_asked]
      rcases hp.asked with h | ⟨d, attempt, rfl, -, rfl, h⟩
      · exact ⟨(unchanged (hu.trans h)).1, .inl (unchanged (hu.trans h)).2⟩
      · have hnew : r.newPrompts n = [⟨call.action, call.args, d, attempt⟩] := by
          rw [newPrompts, hu, h, List.drop_left]
        refine ⟨by rw [hu, h, hnew], .inr ⟨i, call, d, attempt, rfl, hi, ?_⟩⟩
        rw [hs]
        exact hp.call?_self hi

/-- Every prompt is one of some call. -/
theorem exists_mem_promptsOf {prompt : Prompt} (h : prompt ∈ (r.session n).asked) :
    ∃ i, prompt ∈ r.promptsOf n i := by
  induction n with
  | zero => simp [session] at h
  | succ n ih =>
    obtain ⟨hgrow, hcases⟩ := r.newPrompts_cases n
    rw [hgrow] at h
    rcases List.mem_append.mp h with h | h
    · obtain ⟨i, hi⟩ := ih h
      exact ⟨i, by rw [promptsOf_succ]; exact List.mem_append_left _ hi⟩
    · rcases hcases with hnil | ⟨i, _, _, _, hsub, -⟩
      · rw [hnil] at h
        cases h
      · refine ⟨i, ?_⟩
        rw [promptsOf_succ, if_pos hsub]
        exact List.mem_append_right _ h

/-- A call that stays where it is, or that is not there yet, shows no prompt. -/
theorem promptsOf_of_same (h : (r.session (n + 1)).call? i = (r.session n).call? i ∨
    (r.session n).call? i = none) : r.promptsOf (n + 1) i = r.promptsOf n i := by
  rw [promptsOf_succ]
  split
  · rename_i hsub
    rcases (r.newPrompts_cases n).2 with hnil | ⟨j, _, _, _, hj, hbefore, hafter⟩
    · rw [hnil, List.append_nil]
    · obtain rfl : i = j := Option.some.inj (hsub.symm.trans hj)
      rcases h with h | h
      · rw [h, hbefore] at hafter
        simp at hafter
      · rw [h] at hbefore
        cases hbefore
  · rw [List.append_nil]

theorem promptsOf_eq_nil (h : (r.session n).call? i = none) : r.promptsOf n i = [] := by
  induction n with
  | zero => rfl
  | succ n ih =>
    have hbefore : (r.session n).call? i = none := by
      cases hn : (r.session n).call? i with
      | none => rfl
      | some x =>
        rcases r.call?_next hn with hsame | ⟨u, q, hp, hs⟩
        · rw [hsame] at h
          cases h
        · rw [hs, hp.call?_self hn] at h
          cases h
    rw [promptsOf_of_same (.inr hbefore), ih hbefore]

variable (r) in
/-- The prompts that a call has shown, by the phase in which it stands. -/
def Prompted (n i : Nat) (call : Call) : Phase → Prop
  | .ready | .queued _ => r.promptsOf n i = []
  | .asking d attempt shown => 1 ≤ attempt ∧ attempt ≤ r.config.attempts ∧
      r.promptsOf n i = call.prompts d (if shown then attempt else attempt - 1)
  | .running _ | .done _ | .failed _ =>
      ∃ d, ∃ times ≤ r.config.attempts, r.promptsOf n i = call.prompts d times

theorem Prompted.exists_times (h : r.Prompted n i call p) :
    ∃ d, ∃ times ≤ r.config.attempts, r.promptsOf n i = call.prompts d times := by
  cases p with
  | ready | queued _ => exact ⟨{}, 0, Nat.zero_le _, h⟩
  | asking d attempt shown =>
    obtain ⟨-, hatt, heq⟩ := h
    refine ⟨d, _, ?_, heq⟩
    split <;> omega
  | running _ | done _ | failed _ => exact h

/-- A call that has done with asking keeps what it has shown. -/
theorem Prompted.past {q : Phase} (h : r.Prompted n i call p)
    (hsame : r.promptsOf (n + 1) i = r.promptsOf n i) (hq : q.isPast = true) :
    r.Prompted (n + 1) i call q := by
  have hex := h.exists_times
  rw [← hsame] at hex
  cases q with
  | ready | queued _ | asking _ _ _ => cases hq
  | running _ | done _ | failed _ => exact hex

theorem Prompted.progress {u : Session} {q : Phase} (h : r.Prompted n i call p)
    (hp : Progress (r.session n) i call (r.event n) p u q)
    (hs : r.session (n + 1) = u.land i call q) : r.Prompted (n + 1) i call q := by
  have hconf := r.session_config n
  have hadd : r.promptsOf (n + 1) i
      = r.promptsOf n i ++ u.asked.drop (r.session n).asked.length := by
    rw [promptsOf_succ, if_pos hp.subject?, newPrompts, hs, land_asked]
  -- only showing a prompt adds one to what the call has shown
  generalize r.event n = e at hp
  cases hp with
  | enter | takeTurn =>
    simp only [List.drop_length, List.append_nil] at hadd
    exact ⟨Nat.le_refl 1, r.config.one_le_attempts, hadd.trans h⟩
  | line =>
    simp only [List.drop_length, List.append_nil] at hadd
    exact hadd.trans h
  | @show_ d attempt =>
    obtain ⟨hone, hatt, heq⟩ := h
    refine ⟨hone, hatt, ?_⟩
    rw [hadd, heq, List.drop_left]
    simp only [Bool.false_eq_true, if_false, if_true]
    -- it is the prompt of the attempt that the call has got to
    conv => rhs; rw [← Nat.sub_add_cancel hone, Call.prompts_succ, Nat.sub_add_cancel hone]
  | retry _ hl =>
    obtain ⟨-, -, heq⟩ := h
    simp only [List.drop_length, List.append_nil] at hadd
    rw [hconf] at hl
    exact ⟨Nat.succ_pos _, hl, hadd.trans heq⟩
  | late | pass | settle | decline =>
    simp only [List.drop_length, List.append_nil] at hadd
    exact h.past hadd (Phase.isPast_following ..)
  | _ =>
    simp only [List.drop_length, List.append_nil] at hadd
    exact h.past hadd rfl

variable (r) in
/-- The run: what a call has shown fits where it stands. -/
theorem prompted (hi : (r.session n).call? i = some (call, p)) : r.Prompted n i call p := by
  induction n generalizing p with
  | zero => simp [session, Session.call?] at hi
  | succ n ih =>
    rcases r.call?_next_cases hi with h | ⟨h, rfl⟩ | ⟨p', u, h, hp, hs⟩
    · have hsame : r.promptsOf (n + 1) i = r.promptsOf n i :=
        promptsOf_of_same (.inl (hi.trans h.symm))
      have hold := ih h
      cases p with
      | ready | queued _ | asking _ _ _ | running _ | done _ | failed _ =>
        unfold Prompted at hold ⊢
        rwa [hsame]
    · exact (promptsOf_of_same (.inr h)).trans (promptsOf_eq_nil h)
    · exact (ih h).progress hp hs

/-! ## The theorem -/

variable (r) in
/-- A prompt of call `i` is before the person. -/
def Pending (n i : Nat) : Prop :=
  ∃ call d attempt, (r.session n).call? i = some (call, .asking d attempt true)

/-- At most one prompt is before the person. Somebody has the turn to ask exactly when one call asks, and it
is that call. The prompts of a call are numbered 1, 2 and so on, no further than the greatest number of
prompts or 1, and all prompts belong to calls. Over the whole session there are at most that many, and that
many again for each time the prompter failed. -/
theorem prompts_exclusive_and_bounded (r : Run) :
    (∀ n i j, r.Pending n i → r.Pending n j → i = j) ∧
    (∀ n, ((r.session n).holder ≠ none ↔
        ∃ i, (r.session n).Asks i ∧ ∀ j, (r.session n).Asks j → j = i) ∧
      ∀ i, (r.session n).holder = some i ↔ (r.session n).Asks i) ∧
    (∀ n i call p, (r.session n).call? i = some (call, p) →
      ∃ d, ∃ times ≤ r.config.attempts, r.promptsOf n i = call.prompts d times) ∧
    (∀ n, ∀ prompt ∈ (r.session n).asked, ∃ i, prompt ∈ r.promptsOf n i) ∧
    (∀ n, (r.session n).asked.length ≤ (r.prompterFailures n + 1) * r.config.attempts) ∧
    (∀ n, r.prompterFails n = true ↔ ∃ i call message, r.Fails n i call (.prompter message)) ∧
    (r.config.attempts : Int) = max 1 r.config.maxPrompts := by
  refine ⟨?_, fun n => ⟨?_, r.turnHeld n⟩, fun n i call p hi => (r.prompted hi).exists_times,
    fun n prompt => exists_mem_promptsOf, fun n => ?_, fun n => prompterFails_iff,
    r.config.attempts_eq⟩
  · rintro n i j ⟨call, d, attempt, hi⟩ ⟨call', d', attempt', hj⟩
    exact r.asks_unique ⟨call, _, hi, rfl⟩ ⟨call', _, hj, rfl⟩
  · constructor
    · intro h
      obtain ⟨i, hi⟩ := Option.ne_none_iff_exists'.mp h
      exact ⟨i, (r.turnHeld n i).mp hi, fun j hj => r.asks_unique hj ((r.turnHeld n i).mp hi)⟩
    · rintro ⟨i, hi, -⟩
      rw [(r.turnHeld n i).mpr hi]
      simp
  · have h := (r.withinBudget n).total
    rwa [r.session_config] at h

/-- A run in which the prompter fails for the first call. The second one, which has waited for its turn, then
asks and is not understood at first. -/
def askedAfterFailure : Run :=
  .ofList {} {}
    [.arrive { action := "azure.create" }, .arrive { action := "azure.purge" }, .begin 0, .begin 1,
      .show_ 0, .promptFails 0 "lost", .takeTurn 1, .show_ 1, .reply 1 (some "maybe"), .show_ 1]

/-- In the end only the second prompt of the second call is before the person. With the one of the first call
there were three prompts, of six that one failure allows. -/
theorem askedAfterFailure_within_bounds :
    askedAfterFailure.Pending 10 1 ∧ (∀ j, askedAfterFailure.Pending 10 j → j = 1) ∧
      (∃ (call : Call) (d : Decision), askedAfterFailure.promptsOf 10 1 = call.prompts d 2) ∧
      (askedAfterFailure.session 10).asked.length = 3 ∧
      (askedAfterFailure.prompterFailures 10 + 1) * askedAfterFailure.config.attempts = 6 ∧
      (askedAfterFailure.session 10).asked.length ≤
        (askedAfterFailure.prompterFailures 10 + 1) * askedAfterFailure.config.attempts := by
  obtain ⟨hunique, -, hprompts, -, hbound, -, -⟩ := prompts_exclusive_and_bounded askedAfterFailure
  have hpending : askedAfterFailure.Pending 10 1 := by
    have h : (match (askedAfterFailure.session 10).call? 1 with
        | some (_, .asking _ _ true) => true
        | _ => false) = true := by decide +kernel
    split at h
    · rename_i hi
      exact ⟨_, _, _, hi⟩
    · cases h
  refine ⟨hpending, fun j hj => hunique 10 j 1 hj hpending, ?_, by decide +kernel,
    by decide +kernel, hbound 10⟩
  obtain ⟨call, d, attempt, hi⟩ := hpending
  obtain ⟨d', times, -, heq⟩ := hprompts 10 1 call _ hi
  have hlength : (askedAfterFailure.promptsOf 10 1).length = 2 := by decide +kernel
  have htimes : times = 2 := by simpa [heq, Call.prompts] using hlength
  exact ⟨call, d', htimes ▸ heq⟩

end Run
end PolicyGate
