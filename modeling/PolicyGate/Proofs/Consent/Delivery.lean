import PolicyGate.Proofs.Consent.Handover

/-!
# How a cancellation reaches its call

To cancel a call on the loop is not yet the end of it. A call that stands in the line is only marked, and the
cancellation happens when it gets its turn. Meanwhile others have theirs, and nothing of what they do may
undo the mark or take the call any further (`Loop.Doomed`). Since the call is in the line, its turn comes
after as many others as stand before it. So without a time limit every cancellation reaches its call where the
call stands (`Loop.Serves.reachedBy`).

With a time limit this is not so. A prompt has a place of its own in the line, before the call that watches
it, and an answer that is given between the cancellation and the call's turn is taken in spite of the
cancellation (`Loop.not_always_counts_as_no`).
-/

namespace PolicyGate

/-- A call that waits like this is cancelled when it gets its turn. -/
def Thread.isDoomed (t : Thread) : Bool :=
  match t.wait with
  | .starting | .called | .listening _ _ | .executing _ _ => t.struck
  | .roused => true
  | _ => false

namespace Loop

open Session

variable {l l' : Loop} {s : Session} {i : Nat} {call : Call} {p q : Phase}

/-! ## Between the cancellation and the turn -/

/-- Call `i` was cancelled, stands where it stood, and has yet to learn of it. -/
structure Doomed (i : Nat) (call : Call) (p : Phase) (l : Loop) : Prop where
  orderly : l.Orderly none
  stands : l.session.call? i = some (call, p)
  doomed : (l.thread i).isDoomed = true

theorem Doomed.mem_line (h : Doomed i call p l) : .call i ∈ l.line := by
  have hplace := h.orderly.place h.stands
  have hdoomed := h.doomed
  unfold Thread.isDoomed at hdoomed
  cases hw : (l.thread i).wait <;> rw [hw] at hplace hdoomed <;> cases hplace <;> simp_all

/-- Being cancelled once more makes no difference. -/
theorem isDoomed_strike (h : (l.thread i).isDoomed = true) : ((l.strike i).thread i).isDoomed = true := by
  have hlt : i < l.threads.length := by
    refine lt_length_of_wait fun hw => ?_
    simp [Thread.isDoomed, hw] at h
  have hself : (l.strike i).thread i = { l.thread i with struck := true } := by
    simp [strike, thread, List.getD_eq_getElem?_getD, List.getElem?_set_self hlt]
  rw [hself]
  unfold Thread.isDoomed at h ⊢
  dsimp only
  split at h <;> simp_all

theorem cancel_of_isDoomed (h : (l.thread i).isDoomed = true) : l.cancel i = l.strike i := by
  unfold Thread.isDoomed at h
  unfold cancel
  split at h <;> simp_all

/-- Whatever else is in the line because of the call only strikes it once more, or waits on. -/
theorem turn_own_cases {job : Job} (hl : l.Orderly none) (h : (l.thread i).isDoomed = true)
    (hi : subject job = i) (hjob : ∀ k, job ≠ .call k) :
    l.turn job = l ∨ l.turn job = l.strike i ∨ ∃ job', l.turn job = l.enqueue job' := by
  rcases hl.other_turn_cases hjob with heq | heq | heq | hmore
  · exact .inl heq
  · exact .inr (.inl (hi ▸ heq))
  · rw [hi, cancel_of_isDoomed h] at heq
    exact .inr (.inl heq)
  · exact .inr (.inr hmore)

/-- As long as it is not its turn, the call stays where it is, and in the line. -/
theorem Doomed.turn {job : Job} {rest : List Job} (h : Doomed i call p l) (hline : l.line = job :: rest)
    (hjob : job ≠ .call i) :
    Doomed i call p (({ l with line := rest } : Loop).turn job) ∧
      ∃ more, (({ l with line := rest } : Loop).turn job).line = rest ++ more := by
  obtain ⟨horderly, hbeside⟩ := turn_settles h.orderly hline
  by_cases hi : subject job = i
  · have hother : ∀ k, job ≠ .call k := by
      rintro k rfl
      exact hjob (congrArg Job.call hi)
    have htaken := h.orderly.take hline fun k _ heq => absurd heq (hother k)
    rcases turn_own_cases htaken h.doomed hi hother with heq | heq | ⟨job', heq⟩
    · rw [heq] at horderly ⊢
      exact ⟨⟨horderly, h.stands, h.doomed⟩, [], by simp⟩
    · rw [heq] at horderly ⊢
      have hdoomed : (({ l with line := rest } : Loop).thread i).isDoomed = true := h.doomed
      exact ⟨⟨horderly, h.stands, isDoomed_strike hdoomed⟩, [], by simp [strike]⟩
    · rw [heq] at horderly ⊢
      exact ⟨⟨horderly, h.stands, h.doomed⟩, [job'], rfl⟩
  · have hb := hbeside i (Ne.symm hi)
    refine ⟨⟨horderly, hb.call.trans h.stands, ?_⟩, hb.line⟩
    rcases hb.thread with hsame | ⟨hwait, -⟩
    · rw [hsame]
      exact h.doomed
    · -- who is to be cancelled in its turn does not wait in the queue
      have hdoomed := h.doomed
      have hwait' : (l.thread i).wait = .inQueue := hwait
      simp [Thread.isDoomed, hwait'] at hdoomed

/-! ## The turn -/

/-- A call that is over has nothing to go on with. -/
theorem session_settle_of_isOver (fuel : Nat) (hi : l.session.call? i = some (call, q))
    (hq : q.isOver = true) : (settle i (fuel + 1) l).session = l.session := by
  cases q with
  | done res | failed f =>
    simp only [settle, hi]
    rfl
  | ready | queued d | asking d attempt shown | running d => cases hq

/-- When a call goes on because it is cancelled, the cancellation is all that happens. -/
theorem session_proceed_cancel (hi : l.session.call? i = some (call, p)) (hp : p.isOver = false) :
    (l.proceed i (.cancel i)).session = l.session.after (.cancel i) := by
  have hstep : (l.session.step (.cancel i)).isSome = true := by
    cases p <;> simp_all [step, Phase.isOver]
  obtain ⟨u, q, hprog, heq⟩ := exists_progress_of_step hi rfl hstep
  have hq : (l.advance (.cancel i)).session.call? i = some (call, q) := by
    rw [session_advance, heq]
    exact hprog.call?_self hi
  exact (session_settle_of_isOver _ hq hprog.isOver_of_cancel).trans (session_advance ..)

/-- A call that is to be cancelled is cancelled in its turn. -/
theorem session_resume_of_isDoomed (h : (l.thread i).isDoomed = true)
    (hi : l.session.call? i = some (call, p)) (hp : p.isOver = false) :
    (l.resume i).session = l.session.after (.cancel i) := by
  have hcancel := session_proceed_cancel hi hp
  have hleave : ((l.leave i).proceed i (.cancel i)).session = l.session.after (.cancel i) :=
    session_proceed_cancel (l := l.leave i) hi hp
  rcases hthread : l.thread i with ⟨w, struck⟩
  rw [hthread] at h
  unfold resume
  rw [hthread]
  cases w with
  | starting | listening _ _ | executing _ _ =>
    obtain rfl : struck = true := h
    exact hcancel
  | called =>
    obtain rfl : struck = true := h
    exact (ite_callFirst_same _ _).1.trans hleave
  | roused => exact hcancel
  | _ => cases h

/-- A call that is to be cancelled has not come to its end. -/
theorem Doomed.isOver (h : Doomed i call p l) : p.isOver = false := by
  have hplace := h.orderly.place h.stands
  have hdoomed := h.doomed
  unfold Thread.isDoomed at hdoomed
  cases hw : (l.thread i).wait <;> rw [hw] at hplace hdoomed <;> cases hplace <;> simp_all [Phase.isOver]

/-- After as many turns as there are jobs before it the call still stands where it stood, and it is cancelled
in the next. -/
theorem Doomed.cancelled_in_turn {pre post : List Job} (h : Doomed i call p l)
    (hline : l.line = pre ++ .call i :: post) (hpre : .call i ∉ pre) :
    (runFor pre.length l).session.call? i = some (call, p) ∧
      (runFor (pre.length + 1) l).session = (runFor pre.length l).session.after (.cancel i) := by
  induction pre generalizing l post with
  | nil =>
    refine ⟨h.stands, ?_⟩
    simp only [List.length_nil, runFor, hline, List.nil_append]
    exact session_resume_of_isDoomed (l := { l with line := post }) h.doomed h.stands h.isOver
  | cons job pre ih =>
    rw [List.mem_cons, not_or] at hpre
    obtain ⟨hnext, more, hmore⟩ := h.turn hline (Ne.symm hpre.1)
    have hline' : (({ l with line := pre ++ .call i :: post } : Loop).turn job).line
        = pre ++ .call i :: (post ++ more) := by simpa using hmore
    have hrest := ih hnext hline' hpre.2
    rw [List.length_cons, runFor, runFor, hline]
    exact hrest

/-- Striking a call that stands in the line makes it one that is to be cancelled. -/
theorem doomed_of_strike (hl : l.Orderly none) (hi : l.session.call? i = some (call, p))
    (hwait : ∀ struck, (⟨(l.thread i).wait, struck⟩ : Thread).isDoomed = struck) :
    Doomed i call p (l.strike i) := by
  refine ⟨hl.strike i, hi, ?_⟩
  have hself : (l.strike i).thread i = ⟨(l.thread i).wait, true⟩ := by
    simp [strike, thread, List.getD_eq_getElem?_getD, List.getElem?_set_self (hl.lt_length hi)]
  rw [hself]
  exact hwait true

/-- The cancellation of call `i` reaches the call in the phase `p`. This is at once, or it is in some turn
before which the call still stands there. -/
def ReachedBy (l : Loop) (i : Nat) (call : Call) (p : Phase) : Prop :=
  (l.cancel i).session = l.session.after (.cancel i) ∨
    ∃ k, (runFor k (l.cancel i)).session.call? i = some (call, p) ∧
      (runFor (k + 1) (l.cancel i)).session = (runFor k (l.cancel i)).session.after (.cancel i)

/-- Without a time limit a cancellation reaches its call where the call stands. -/
theorem Serves.reachedBy (h : Serves l) (hi : l.session.call? i = some (call, p))
    (hp : p.isOver = false) : l.ReachedBy i call p := by
  have hl := h.orderly
  have hplace := hl.place hi
  have hturn : ∀ {l'}, l.cancel i = l' → Doomed i call p l' → l.ReachedBy i call p := by
    rintro l' rfl hdoomed
    obtain ⟨pre, post, hline, hpre⟩ := List.eq_append_cons_of_mem hdoomed.mem_line
    exact .inr ⟨_, hdoomed.cancelled_in_turn hline hpre⟩
  cases hwait : (l.thread i).wait with
  | inQueue =>
    -- it stands in no line, so it is cancelled there and then
    refine .inl ?_
    simp only [Loop.cancel, hwait]
    rfl
  | deaf =>
    have hcancel : l.cancel i = (l.set i .roused).enqueue (.call i) := by simp only [Loop.cancel, hwait]
    refine hturn hcancel ⟨hcancel ▸ (hl.cancel_settles i).1, hi, ?_⟩
    have hself : ((l.set i .roused).enqueue (.call i)).thread i = ⟨.roused, false⟩ :=
      thread_set_self (hl.lt_length hi) .roused
    rw [hself]
    rfl
  | starting | called | listening turns ending | executing turns answer =>
    have hcancel : l.cancel i = l.strike i := by simp only [Loop.cancel, hwait]
    refine hturn hcancel (doomed_of_strike hl hi fun struck => ?_)
    rw [hwait]
    rfl
  | roused =>
    have hdoomed : (l.thread i).isDoomed = true := by simp [Thread.isDoomed, hwait]
    exact hturn (cancel_of_isDoomed hdoomed) ⟨hl.strike i, hi, isDoomed_strike hdoomed⟩
  | watch attempt watch asker => exact absurd hwait (hl.not_watch i attempt watch asker)
  | _ =>
    -- the call has come to its end
    rw [hwait] at hplace
    cases hplace
    simp_all [Phase.isOver]

end Loop

/-! ## Every cancellation -/

/-- What a cancellation does in a run, if nobody has decided from outside. A call that has the turn to ask ends
as cancelled, and that is a no to all: nobody is asked any more, and whoever waits for the turn, or begins later
and needs consent, is blocked as declined. A call that has not begun, waits for the turn or has its action
executed is taken out, and all else stays as it is: what was decided, the prompt of another call and what the
person answers to it, and the turn, which those who wait for it can take. No call that is cancelled has an entry
on the audit log.

A loop that does not limit the time for an answer brings every cancellation to its call where the call stands.
And whoever is cancelled, the turn is handed on: whenever it is free and somebody waits for it, the first of the
queue has been called and has a place in the line. -/
theorem cancellation_of_one_call (r : Run) (l : Loop) :
    (∀ (n i : Nat) (call : Call) (p : Phase),
      (∀ k < n, (r.event k).decision? = none) → r.event n = .cancel i →
      (r.session n).call? i = some (call, p) →
        (p.isAsking = true → r.EndsInNo n i call ∧ r.Unaudited n i) ∧
        (p.isAsking = false → p.isOver = false → r.StepsAside n i call ∧ r.Unaudited n i) ∧
        (p.isOver = true → r.session (n + 1) = r.session n)) ∧
    (l.Serves →
      (∀ (i : Nat) (call : Call) (p : Phase), l.session.call? i = some (call, p) → p.isOver = false →
        l.ReachedBy i call p) ∧
      ∀ (i : Nat) (call : Call) (d : Decision), l.session.holder = none →
        l.session.call? i = some (call, .queued d) →
          ∃ j rest, l.waiters = (j, true) :: rest ∧ .call j ∈ l.line) := by
  refine ⟨fun n i call p hquiet he hi => Run.cancellation_by_phase hquiet he hi, fun hl => ⟨?_, ?_⟩⟩
  · intro i call p hi hp
    exact hl.reachedBy hi hp
  · intro i call d hfree hi
    exact hl.handed_over hfree hi

namespace Run

/-- A run in which the first of two calls has its prompt before the person, and the second one waits. -/
def oneAsksOneWaits (rest : List Event) : Run :=
  .ofList {} {} <| [.arrive create, .arrive purge, .begin 0, .begin 1, .show_ 0] ++ rest

section OneAsksOneWaits

variable (rest : List Event)

theorem oneAsksOneWaits_quiet : ∀ k < 5, ((oneAsksOneWaits rest).event k).decision? = none := by
  intro k hk
  have hcases : k = 0 ∨ k = 1 ∨ k = 2 ∨ k = 3 ∨ k = 4 := by omega
  rcases hcases with rfl | rfl | rfl | rfl | rfl <;> rfl

theorem oneAsksOneWaits_asks :
    ∃ d, ((oneAsksOneWaits rest).session 5).call? 0 = some (create, .asking d 1 true) := ⟨_, rfl⟩

theorem oneAsksOneWaits_waits :
    ∃ d, ((oneAsksOneWaits rest).session 5).call? 1 = some (purge, .queued d) := ⟨_, rfl⟩

end OneAsksOneWaits

end Run

namespace Loop

open Run

/-- A loop with two calls and a person who takes some turns to say yes. -/
def twoCalls : Loop :=
  (Loop.submit { session := { config := {}, rules := {} },
                 replies := [{ turns := 3, ending := .reply (some "yes") }] } create).submit purge

theorem twoCalls_serves : (runFor 2 twoCalls).Serves :=
  (((Serves.new {} {} [{ turns := 3, ending := .reply (some "yes") }] []).submit create).submit purge).runFor 2

/-- Of two calls the first asks and the second waits. If the first is cancelled, the second is blocked when it
gets its turn; if the second is cancelled, the answer to the first counts. On a loop, the first call is reached by
its cancellation while a person thinks about the answer, and then the second one has been called. -/
theorem oneAsksOneWaits_cancelled :
    (((oneAsksOneWaits [.cancel 0, .takeTurn 1]).session 6).consent = ⟨.deny, true⟩ ∧
      ∃ d, ((oneAsksOneWaits [.cancel 0, .takeTurn 1]).session 7).call? 1 =
        some (purge, .done (.blocked purge d .consentDeclined))) ∧
    (((oneAsksOneWaits [.cancel 1, .reply 0 (some "yes")]).session 7).consent = ⟨.execute, true⟩ ∧
      ∀ o ∈ (oneAsksOneWaits [.cancel 1, .reply 0 (some "yes")]).outcomes 7, o.number ≠ 1) ∧
    (∃ d, (runFor 2 twoCalls).ReachedBy 0 create (.asking d 1 true)) ∧
      ∃ j rest, (runFor 1 ((runFor 2 twoCalls).cancelAfter 0 0)).waiters = (j, true) :: rest ∧
        .call j ∈ (runFor 1 ((runFor 2 twoCalls).cancelAfter 0 0)).line := by
  refine ⟨?_, ?_, ?_, ?_⟩
  · have hquiet := oneAsksOneWaits_quiet [.cancel 0, .takeTurn 1]
    obtain ⟨d, hi⟩ := oneAsksOneWaits_asks [.cancel 0, .takeTurn 1]
    obtain ⟨d', hj⟩ := oneAsksOneWaits_waits [.cancel 0, .takeTurn 1]
    obtain ⟨hphase, -⟩ := cancellation_of_one_call (oneAsksOneWaits [.cancel 0, .takeTurn 1]) twoCalls
    obtain ⟨hno, -⟩ := (hphase 5 0 create _ hquiet rfl hi).1 rfl
    refine ⟨(hno.closed 6 (by decide)).declined, d', ?_⟩
    -- its turn comes at moment 6, when it still waits
    rcases hno.waiting 1 purge d' hj 6 (by decide) with ⟨-, hturn⟩ | hdone | ⟨-, l, hl, hlk, -⟩
    · exact hturn rfl
    · exact done_stays _ (by decide) hdone
    · omega
  · have hquiet := oneAsksOneWaits_quiet [.cancel 1, .reply 0 (some "yes")]
    obtain ⟨d, hi⟩ := oneAsksOneWaits_waits [.cancel 1, .reply 0 (some "yes")]
    obtain ⟨d', hj⟩ := oneAsksOneWaits_asks [.cancel 1, .reply 0 (some "yes")]
    obtain ⟨hphase, -⟩ :=
      cancellation_of_one_call (oneAsksOneWaits [.cancel 1, .reply 0 (some "yes")]) twoCalls
    obtain ⟨haside, hlog⟩ := (hphase 5 1 purge _ hquiet rfl hi).2.1 rfl rfl
    obtain ⟨-, -, hreply⟩ := haside.pending 0 create d' 1 hj
    exact ⟨hreply (some "yes") .execute rfl (by decide +kernel), hlog.never 7⟩
  · obtain ⟨-, hserves⟩ := cancellation_of_one_call (oneAsksOneWaits []) (runFor 2 twoCalls)
    exact ⟨_, (hserves twoCalls_serves).1 0 create _ rfl rfl⟩
  · have hserves := (twoCalls_serves.cancelAfter 0 0).runFor 1
    obtain ⟨-, hloop⟩ := cancellation_of_one_call (oneAsksOneWaits [])
      (runFor 1 ((runFor 2 twoCalls).cancelAfter 0 0))
    exact (hloop hserves).2 1 purge _ rfl rfl

/-! ## A cancellation that does not reach the call -/

/-- A loop with one call and a person who takes a turn to say yes. -/
def oneCall (limit : Option TimeLimit) : Loop :=
  Loop.submit { session := { config := {}, rules := {} },
                replies := [{ turns := 1, ending := .reply (some "yes") }], limit } create

/-- The prompt of a call is before a person who has not answered it. -/
def unanswered (l : Loop) (i : Nat) : Bool :=
  match (l.thread i).wait with
  | .listening _ _ | .deaf | .watch _ .watching (.pausing _ _ _) | .watch _ .watching .deaf => true
  | _ => false

/-- If the time for the answer is limited, a call that is cancelled while its prompt is unanswered may be
executed nevertheless. The call is put in the line behind its prompt, and if that ends with an answer before
the call gets its turn then the answer counts. Without a limit the same cancellation is a no. -/
theorem not_always_counts_as_no :
    ¬ (∀ limit turns, (runFor turns (oneCall limit)).unanswered 0 = true →
        ((runFor turns (oneCall limit)).cancel 0).finish.session.consent = ⟨.deny, true⟩) ∧
      (∃ d, (runFor 2 (oneCall (some .positive))).session.call? 0 =
        some (create, .asking d 1 true)) ∧
      ((runFor 2 (oneCall (some .positive))).cancel 0).finish.session.consent = ⟨.execute, true⟩ ∧
      (runFor 1 (oneCall none)).unanswered 0 = true ∧
      ((runFor 1 (oneCall none)).cancel 0).finish.session.consent = ⟨.deny, true⟩ := by
  have hexecute : ((runFor 2 (oneCall (some .positive))).cancel 0).finish.session.consent
      = ⟨.execute, true⟩ := by decide +kernel
  refine ⟨fun h => ?_, ⟨_, rfl⟩, hexecute, by decide +kernel, by decide +kernel⟩
  have hdeny := h (some .positive) 2 (by decide +kernel)
  rw [hexecute] at hdeny
  cases hdeny

end Loop
end PolicyGate
