import PolicyGate.Proofs.Consent.Execution

/-!
# The audit log

Outcomes are produced one at a time, each by the call that it belongs to, and each is put on the audit log
in the step that produces it. `Run.outcomes` lists them without a look at the log: it compares where the
calls stand from one moment to the next. `Run.audit_records_outcomes` says that the log is this list, entry
by entry, with the consent of the moment written beside it.

The consent is read when the entry is written, not when the call decides, and for an executed action there
is a wait in between. That the two agree is where the latch comes in (`Run.Completes.mode`).
-/

namespace PolicyGate

theorem GateResult.executed_blockReason (d : Decision) (answer : Except String Value) :
    (GateResult.executed d answer).blockReason = none := by
  cases answer <;> rfl

/-- An outcome as a run produces it: at which moment, and of which call. -/
structure Outcome where
  moment : Nat
  number : Nat
  call : Call
  result : GateResult

namespace Session

variable {s : Session} {i : Nat} {call : Call} {p : Phase} {res : GateResult}

/-- The outcome of call `i`, if it has one. -/
def result? (s : Session) (i : Nat) : Option (Call × GateResult) :=
  match s.call? i with
  | some (call, .done res) => some (call, res)
  | _ => none

theorem result?_eq_some : s.result? i = some (call, res) ↔ s.call? i = some (call, .done res) := by
  unfold result?
  split
  · rename_i call' res' h
    rw [h]
    simp
  · rename_i h
    simpa using h call res

/-- A call that lands without an outcome adds nothing to the audit log. -/
theorem land_audit (s : Session) (i : Nat) (call : Call) (hp : ∀ res, p ≠ .done res) :
    (s.land i call p).audit = s.audit := by
  cases p with
  | done res => exact absurd rfl (hp res)
  | _ => rfl

end Session

namespace Run

open Session

variable {r : Run} {m n i : Nat} {call : Call} {d : Decision} {res : GateResult}

/-! ## The outcomes of a run -/

/-- The outcome that is produced at moment `n`: the event belongs to a call that has no outcome yet, and
then it has one. -/
def outcome? (r : Run) (n : Nat) : Option Outcome :=
  (r.event n).subject?.bind fun i =>
    if ((r.session n).result? i).isSome then none
    else ((r.session (n + 1)).result? i).map fun (call, res) => ⟨n, i, call, res⟩

/-- The outcomes produced before moment `n`, in order. -/
def outcomes (r : Run) (n : Nat) : List Outcome := (List.range n).filterMap r.outcome?

/-- What an outcome should leave on the audit log. -/
def entry (r : Run) (o : Outcome) : AuditEntry where
  action := o.call.action
  status := o.result.status
  verdict := o.result.decision.verdict
  mode := (r.session (o.moment + 1)).consent.mode
  matched := o.result.decision.matched
  blockReason := o.result.blockReason
  error := o.result.error

/-- The outcomes are those that calls get. -/
theorem outcome?_eq_some {o : Outcome} :
    r.outcome? n = some o ↔ o.moment = n ∧ r.Completes n o.number o.call o.result := by
  constructor
  · intro h
    obtain ⟨i, -, h⟩ := Option.bind_eq_some_iff.mp h
    split at h
    · cases h
    · rename_i hnone
      obtain ⟨⟨call, res⟩, hres, rfl⟩ := Option.map_eq_some_iff.mp h
      refine ⟨rfl, fun hold => hnone ?_, result?_eq_some.mp hres⟩
      rw [result?_eq_some.mpr hold]
      rfl
  · obtain ⟨k, i, call, res⟩ := o
    rintro ⟨rfl, h⟩
    obtain ⟨p, u, hi, hp, -⟩ := h.progress
    have hsub : (r.event k).subject? = some i := hp.subject?
    have hnone : (r.session k).result? i = none := by
      cases hres : (r.session k).result? i with
      | none => rfl
      | some x =>
        -- a call that has an outcome makes no progress
        have hdone := result?_eq_some.mp hres
        rw [hi] at hdone
        simp only [Option.some.injEq, Prod.mk.injEq] at hdone
        rw [hdone.2] at hp
        exact absurd hp Progress.not_done
    simp [outcome?, hsub, hnone, result?_eq_some.mpr h.2]

theorem mem_outcomes {o : Outcome} :
    o ∈ r.outcomes n ↔ o.moment < n ∧ r.Completes o.moment o.number o.call o.result := by
  simp only [outcomes, List.mem_filterMap, List.mem_range, outcome?_eq_some]
  constructor
  · rintro ⟨k, hk, rfl, h⟩
    exact ⟨hk, h⟩
  · rintro ⟨hk, h⟩
    exact ⟨o.moment, hk, rfl, h⟩

theorem outcomes_succ (r : Run) (n : Nat) :
    r.outcomes (n + 1) = r.outcomes n ++ (r.outcome? n).toList := by
  rw [outcomes, outcomes, List.range_succ, List.filterMap_append]
  cases h : r.outcome? n <;> simp [h]

/-- A call that has failed never has an outcome, neither before nor afterwards. -/
theorem number_ne_of_failed {f : CallFailure} {o : Outcome}
    (hf : (r.session m).call? i = some (call, .failed f)) (ho : o ∈ r.outcomes n) : o.number ≠ i := by
  rintro rfl
  obtain ⟨-, hc⟩ := mem_outcomes.mp ho
  -- whichever end came first would have been final
  rcases Nat.le_total m (o.moment + 1) with hle | hle
  · have hf' := r.failed_stays hle hf
    rw [hc.2] at hf'
    cases hf'
  · have hd := r.done_stays hle hc.2
    rw [hf] at hd
    cases hd

/-- The outcomes before a moment come first, and the later ones are of later moments. -/
theorem outcomes_append (r : Run) (hmn : m ≤ n) :
    ∃ later, r.outcomes n = r.outcomes m ++ later ∧ ∀ o ∈ later, m ≤ o.moment := by
  induction hmn with
  | refl => exact ⟨[], by simp, by simp⟩
  | @step n hmn ih =>
    obtain ⟨later, heq, hlater⟩ := ih
    refine ⟨later ++ (r.outcome? n).toList, ?_, fun o ho => ?_⟩
    · rw [outcomes_succ, heq, List.append_assoc]
    · rcases List.mem_append.mp ho with ho | ho
      · exact hlater o ho
      · rw [(outcome?_eq_some.mp (Option.mem_toList.mp ho)).1]
        exact hmn

/-- A call gets an outcome once. -/
theorem Completes.unique {call' : Call} {res' : GateResult} (h : r.Completes m i call res)
    (h' : r.Completes n i call' res') : m = n := by
  have before : ∀ {m n call call' res res'}, r.Completes m i call res →
      r.Completes n i call' res' → ¬ m < n := by
    intro m n call call' res res' h h' hlt
    obtain ⟨p, u, hi, hp, -⟩ := h'.progress
    rw [r.done_stays hlt h.2] at hi
    simp only [Option.some.injEq, Prod.mk.injEq] at hi
    rw [← hi.2] at hp
    exact Progress.not_done hp
  exact Nat.le_antisymm (Nat.le_of_not_lt (before h' h)) (Nat.le_of_not_lt (before h h'))

/-- Whatever outcome a call has, there was a moment at which it got it. -/
theorem exists_completes (hi : (r.session n).call? i = some (call, .done res)) :
    ∃ k < n, r.Completes k i call res := by
  induction n with
  | zero => simp [session, Session.call?] at hi
  | succ n ih =>
    by_cases hold : (r.session n).call? i = some (call, .done res)
    · obtain ⟨k, hk, h⟩ := ih hold
      exact ⟨k, Nat.lt_succ_of_lt hk, h⟩
    · exact ⟨n, Nat.lt_succ_self n, hold, hi⟩

/-- The outcomes are in the order of their moments, and no two are of one call. -/
theorem pairwise_outcomes (r : Run) (n : Nat) :
    (r.outcomes n).Pairwise fun o o' => o.moment < o'.moment ∧ o.number ≠ o'.number := by
  induction n with
  | zero => exact .nil
  | succ n ih =>
    rw [outcomes_succ, List.pairwise_append]
    refine ⟨ih, by cases r.outcome? n <;> simp, fun o ho o' ho' => ?_⟩
    obtain ⟨hlt, hc⟩ := mem_outcomes.mp ho
    obtain ⟨hn, hc'⟩ := outcome?_eq_some.mp (Option.mem_toList.mp ho')
    refine ⟨by rwa [hn], fun heq => ?_⟩
    rw [heq] at hc
    exact absurd (hc.unique hc') (Nat.ne_of_lt hlt)

/-! ## The log is the list of outcomes -/

/-- In one step the log grows by the outcome that is produced, if there is one. -/
theorem audit_next (r : Run) (n : Nat) :
    (r.session (n + 1)).audit = (r.session n).audit ++ ((r.outcome? n).map r.entry).toList := by
  cases ho : r.outcome? n with
  | some o =>
    obtain ⟨rfl, h⟩ := outcome?_eq_some.mp ho
    obtain ⟨p, u, -, hp, hs⟩ := h.progress
    have hc : (r.session (o.moment + 1)).consent = u.consent := by rw [hs, land_consent]
    have hadd : (r.session (o.moment + 1)).audit
        = u.audit ++ [.ofResult o.call.action u.consent.mode o.result] := by
      rw [hs]
      rfl
    rw [hadd, hp.audit, ← hc]
    rfl
  | none =>
    have same : (r.session (n + 1)).audit = (r.session n).audit := by
      rcases r.next_cases n with hchange | ⟨hs, -⟩
      · generalize ht : r.session (n + 1) = t at hchange
        generalize he : r.event n = e at hchange
        cases hchange with
        | @call i call _ p u q hi hp =>
          refine (land_audit u i call fun res hq => ?_).trans hp.audit
          -- otherwise the call would have got its outcome just now
          subst hq
          have hdone : (r.session (n + 1)).call? i = some (call, .done res) := by
            rw [ht]
            exact hp.call?_self hi
          have hold : (r.session n).call? i ≠ some (call, .done res) := by
            intro hold
            rw [hi] at hold
            simp only [Option.some.injEq, Prod.mk.injEq] at hold
            rw [hold.2] at hp
            exact Progress.not_done hp
          have hsome : r.outcome? n = some ⟨n, i, call, res⟩ :=
            outcome?_eq_some.mpr ⟨rfl, hold, hdone⟩
          rw [ho] at hsome
          cases hsome
        | arrive _ | speak _ _ | reload _ => rfl
      · rw [hs]
    simp [same]

theorem audit_eq (r : Run) (n : Nat) : (r.session n).audit = (r.outcomes n).map r.entry := by
  induction n with
  | zero => rfl
  | succ n ih =>
    rw [audit_next, ih, outcomes_succ, List.map_append]
    cases r.outcome? n <;> rfl

/-! ## The consent beside an entry -/

/-- Every way in which a call gets its outcome. -/
theorem Completes.cases (h : r.Completes n i call res) :
    (∃ d, r.Begins n i call ∧ res = .blocked call d .policyDeny) ∨
    (∃ d, (r.session (n + 1)).consent.askedOnce = false ∧ res = .blocked call d .consentRequired) ∨
    (∃ d mode, (r.session (n + 1)).consent = ⟨mode, true⟩ ∧
      Phase.following mode call d = .done res) ∨
    ∃ d answer, (r.session n).call? i = some (call, .running d) ∧ res = .executed d answer := by
  obtain ⟨p, u, hi, hp, hs⟩ := h.progress
  have hc : (r.session (n + 1)).consent = u.consent := by rw [hs, land_consent]
  rw [hc]
  generalize he : r.event n = e at hp
  generalize hq : Phase.done res = q at hp
  cases hp with
  | denied => exact .inl ⟨_, ⟨he, hi⟩, Phase.done.inj hq⟩
  | alone _ ha => exact .inr (.inl ⟨_, ha, Phase.done.inj hq⟩)
  | late _ ha | pass _ _ ha => exact .inr (.inr (.inl ⟨_, _, by rw [← ha], rfl⟩))
  | settle | decline => exact .inr (.inr (.inl ⟨_, _, rfl, rfl⟩))
  | finish => exact .inr (.inr (.inr ⟨_, _, hi, Phase.done.inj hq⟩))
  | _ => cases hq

/-- The consent of the session when a call gets its outcome is the one that the outcome speaks of. -/
theorem Completes.mode (h : r.Completes n i call res) :
    (res.status = .simulated → (r.session (n + 1)).consent.mode = .simulate) ∧
    (res.blockReason = some .consentDeclined → (r.session (n + 1)).consent.mode = .deny) ∧
    (res.blockReason = some .consentRequired → (r.session (n + 1)).consent.mode = .undecided) ∧
    (res.status = .executed → r.ChangesState i → (r.session (n + 1)).consent.mode = .execute) := by
  rcases h.cases with ⟨d, -, rfl⟩ | ⟨d, ha, rfl⟩ | ⟨d, mode, hc, hf⟩ | ⟨d, answer, hi, rfl⟩
  · exact ⟨nofun, nofun, nofun, nofun⟩
  · refine ⟨nofun, nofun, fun _ => ?_, nofun⟩
    rw [(r.latched (n + 1)).eq_fresh ha]
    rfl
  · have hdec := (r.latched (n + 1)).isDecided (by rw [hc])
    rw [hc] at hdec ⊢
    rcases Phase.following_eq_done hf with ⟨rfl, rfl⟩ | ⟨rfl | rfl, rfl⟩
    · exact ⟨fun _ => rfl, nofun, nofun, nofun⟩
    · exact ⟨nofun, fun _ => rfl, nofun, nofun⟩
    · cases hdec
  · rw [GateResult.executed_status, GateResult.executed_blockReason]
    refine ⟨nofun, nofun, nofun, ?_⟩
    rintro - ⟨m, call', hb, hch⟩
    -- the session had decided to execute when the action was handed over, and that stays
    obtain ⟨m', -, hb', -, hex⟩ := r.standing hi
    obtain rfl := hb.unique hb'
    obtain rfl := r.call_unique hb.2 hb'.2
    have hn := (hex hch).2
    rw [r.consent_stays (Nat.le_succ n) (by rw [hn]), hn]

/-- Along the log the consent is undecided up to some entry, and one and the same decision from there on. -/
theorem audit_modes (r : Run) :
    ∃ mode, mode.isDecided = true ∧ ∀ n, ∃ before after,
      (r.session n).audit = before ++ after ∧ (∀ e ∈ before, e.mode = .undecided) ∧
        ∀ e ∈ after, e.mode = mode := by
  -- entries of moments at which nothing is decided yet
  have undecided : ∀ n, (∀ k ≤ n, (r.session k).consent = .fresh) →
      ∀ e ∈ (r.outcomes n).map r.entry, e.mode = .undecided := by
    intro n hfresh e he
    obtain ⟨o, ho, rfl⟩ := List.mem_map.mp he
    have hc := hfresh (o.moment + 1) (mem_outcomes.mp ho).1
    exact congrArg ConsentState.mode hc
  rcases r.consent_history with hfresh | ⟨k, mode, hm, hbefore, hafter⟩
  · refine ⟨.deny, rfl, fun n => ⟨(r.session n).audit, [], by simp, ?_, by simp⟩⟩
    rw [audit_eq]
    exact undecided n fun k _ => hfresh k
  · refine ⟨mode, hm, fun n => ?_⟩
    rcases Nat.le_total n k with hnk | hkn
    · refine ⟨(r.session n).audit, [], by simp, ?_, by simp⟩
      rw [audit_eq]
      exact undecided n fun k' hk' => hbefore k' (Nat.le_trans hk' hnk)
    · obtain ⟨later, heq, hlater⟩ := r.outcomes_append hkn
      refine ⟨(r.outcomes k).map r.entry, later.map r.entry, ?_, undecided k hbefore, ?_⟩
      · rw [audit_eq, heq, List.map_append]
      · intro e he
        obtain ⟨o, ho, rfl⟩ := List.mem_map.mp he
        have hc := hafter (o.moment + 1) (Nat.lt_succ_of_le (hlater o ho))
        exact congrArg ConsentState.mode hc

/-- The audit log is the list of the outcomes, in the order in which they are produced: it only grows, every
call that has an outcome has one entry on it, and a call that ends otherwise has none. An entry has the
action of the call, what its outcome says, and the consent of that moment. Along the log the consent is
undecided first and one decision afterwards. It is the one that the entry speaks of: to simulate, a no,
nothing decided yet, or, for an action that changes state, to execute. -/
theorem audit_records_outcomes (r : Run) :
    (∀ m n, m ≤ n → (r.session m).audit <+: (r.session n).audit) ∧
    (∀ n, (r.session n).audit = (r.outcomes n).map r.entry) ∧
    (∀ n, (r.outcomes n).Pairwise fun o o' => o.moment < o'.moment ∧ o.number ≠ o'.number) ∧
    (∀ n o, o ∈ r.outcomes n ↔ o.moment < n ∧ r.Completes o.moment o.number o.call o.result) ∧
    (∀ n i call res, (r.session n).call? i = some (call, .done res) ↔
      ∃ k, ⟨k, i, call, res⟩ ∈ r.outcomes n) ∧
    (∀ m n i call f, (r.session m).call? i = some (call, .failed f) →
      ∀ o ∈ r.outcomes n, o.number ≠ i) ∧
    (∃ mode, mode.isDecided = true ∧ ∀ n, ∃ before after,
      (r.session n).audit = before ++ after ∧ (∀ e ∈ before, e.mode = .undecided) ∧
        ∀ e ∈ after, e.mode = mode) ∧
    ∀ n, ∀ o ∈ r.outcomes n,
      (o.result.status = .simulated → (r.entry o).mode = .simulate) ∧
      (o.result.blockReason = some .consentDeclined → (r.entry o).mode = .deny) ∧
      (o.result.blockReason = some .consentRequired → (r.entry o).mode = .undecided) ∧
      (o.result.status = .executed → r.ChangesState o.number → (r.entry o).mode = .execute) := by
  refine ⟨fun m n hmn => ?_, r.audit_eq, r.pairwise_outcomes, fun n o => mem_outcomes,
    fun n i call res => ⟨fun h => ?_, ?_⟩, ?_, r.audit_modes, fun n o ho => ?_⟩
  · obtain ⟨later, heq, -⟩ := r.outcomes_append hmn
    rw [audit_eq, audit_eq, heq, List.map_append]
    exact List.prefix_append _ _
  · obtain ⟨k, hk, hc⟩ := exists_completes h
    exact ⟨k, mem_outcomes.mpr ⟨hk, hc⟩⟩
  · rintro ⟨k, ho⟩
    obtain ⟨hk, hc⟩ := mem_outcomes.mp ho
    exact r.done_stays hk hc.2
  · intro m n i call f hf o ho
    exact number_ne_of_failed hf ho
  · exact (mem_outcomes.mp ho).2.mode

/-- A run with two calls, one of which is cancelled before it begins. The other one is executed. -/
def oneCancelled : Run :=
  .ofList {} {}
    [.arrive create, .arrive purge, .cancel 1, .begin 0, .show_ 0, .reply 0 (some "yes"),
      .finish 0 (.ok .null)]

/-- The log of this run has the call that was executed, with the consent to that, and no other entry. -/
theorem oneCancelled_audited :
    ∃ o, oneCancelled.outcomes 7 = [o] ∧ o.number = 0 ∧ o.result.status = .executed ∧
      (oneCancelled.session 7).audit = [oneCancelled.entry o] ∧
      (oneCancelled.entry o).mode = .execute ∧
      (oneCancelled.session 6).audit <+: (oneCancelled.session 7).audit ∧
      ∀ o' ∈ oneCancelled.outcomes 7, o'.number ≠ 1 := by
  obtain ⟨hgrows, hlog, -, -, -, hfailed, -, hmode⟩ := audit_records_outcomes oneCancelled
  have hnumbers : (oneCancelled.outcomes 7).map (·.number) = [0] := by decide +kernel
  have hstatus : (oneCancelled.outcomes 7).map (·.result.status) = [.executed] := by decide +kernel
  obtain ⟨o, ho⟩ : ∃ o, oneCancelled.outcomes 7 = [o] :=
    List.length_eq_one_iff.mp (by simpa using congrArg List.length hnumbers)
  rw [ho] at hnumbers hstatus
  have hnumber : o.number = 0 := (List.cons.inj hnumbers).1
  have hexecuted : o.result.status = .executed := (List.cons.inj hstatus).1
  have hchanges : oneCancelled.ChangesState 0 := ⟨3, create, ⟨rfl, rfl⟩, by decide +kernel⟩
  have hcancelled : (oneCancelled.session 3).call? 1 = some (purge, .failed .cancelled) := rfl
  have hmem : o ∈ oneCancelled.outcomes 7 := by simp [ho]
  have hexecute := (hmode 7 o hmem).2.2.2 hexecuted (by rwa [hnumber])
  exact ⟨o, ho, hnumber, hexecuted, by rw [hlog, ho]; rfl, hexecute, hgrows 6 7 (by decide),
    hfailed 3 7 1 purge .cancelled hcancelled⟩

end Run
end PolicyGate
