import PolicyGate.Proofs.Consent.Resumption

/-!
# After the prompter has failed

An asking that ends in an error of the prompter is the one end of an asking that decides nothing. A timeout and a
cancellation of the same prompt are a no to all, and stand beside it in the code. `Run.LeftAsItWas` says what the
error leaves behind: the session of before, with one call less and the turn to ask free. So whoever asks next begins
with a first prompt, however many prompts the failed call had shown.

`prompter_failure_leaves_session` has two more parts about the loop, because a turn that is free does not suffice for
somebody to take it. The first of the queue is called in the same turn in which the call ends, and as long as nothing
is decided nobody who waits is left waiting (`Loop.Waits.resolved`).
-/

namespace PolicyGate

namespace Session

variable {s t u : Session} {i j : Nat} {call : Call} {d : Decision} {e : Event} {p q : Phase}

theorem step_promptFails {attempt : Nat} (hi : s.call? i = some (call, .asking d attempt true))
    (message : String) :
    s.step (.promptFails i message) = some { s with
      calls := s.calls.set i (call, .failed (.prompter message)), holder := none } := by
  simp [step, hi, release, move]

/-- Calls ask, and wait for their turn to ask, only where there is somebody to ask. -/
def Attended (s : Session) : Prop :=
  ∀ i call p, s.call? i = some (call, p) → p.isAsking = true ∨ p.isQueued = true →
    s.config.canAsk = true

theorem attended_change (hs : s.Attended) (h : Change s e t) : t.Attended := by
  intro i call q hi hq
  rw [h.config]
  rcases h.call?_cases hi with hold | ⟨-, rfl⟩ | ⟨p, u, hold, hp, -⟩
  · exact hs i call q hold hq
  · simp [Phase.isAsking, Phase.isQueued] at hq
  · cases hp with
    | enter _ _ hk | line _ _ hk => exact hk
    | takeTurn => exact hs i call _ hold (.inr rfl)
    | show_ | retry => exact hs i call _ hold (.inl rfl)
    | late | pass | settle | decline =>
      rw [Phase.isAsking_following, Phase.isQueued_following] at hq
      simp at hq
    | _ => simp [Phase.isAsking, Phase.isQueued] at hq

end Session

namespace Run

open Session

variable {r : Run} {m n k i j : Nat} {call : Call} {d : Decision} {attempt : Nat} {message : String}

theorem attended (r : Run) (n : Nat) : (r.session n).Attended :=
  r.invariant (fun _ _ _ _ _ hi => by simp [Session.call?] at hi) attended_change n

/-! ## Who decides -/

/-- At moment `m` call `j` records a decision: its prompt gets a reply that is understood, or its asking stops. -/
def Records (r : Run) (m j : Nat) : Prop :=
  ∃ call d attempt shown, (r.session m).call? j = some (call, .asking d attempt shown) ∧
    ((∃ raw, r.event m = .reply j raw ∧ (Reply.mode? raw).isSome = true) ∨ r.Stops m j attempt shown)

/-- What is decided at a moment was decided by a person on their own, or recorded by a call. -/
theorem decides_or_records (ha : (r.session m).consent.askedOnce = false)
    (ha' : (r.session (m + 1)).consent.askedOnce = true) :
    (r.event m).decision?.isSome = true ∨ ∃ j, r.Records m j := by
  rcases r.next_cases m with hc | ⟨hs, -⟩
  · generalize ht : r.session (m + 1) = t at hc ha'
    generalize he : r.event m = e at hc
    cases hc with
    | @call j call e p u q hj hp =>
      rw [land_consent] at ha'
      cases hp with
      | settle hm =>
        exact .inr ⟨j, call, _, _, _, hj, .inl ⟨_, he, by rw [hm]; rfl⟩⟩
      | decline hg => exact .inr ⟨j, call, _, _, _, hj, .inr (.inl (he ▸ hg))⟩
      | abandon => exact .inr ⟨j, call, _, _, _, hj, .inr (.inr he)⟩
      -- other progress leaves the consent as it is
      | _ =>
        rw [show _ = _ from ha] at ha'
        cases ha'
    | arrive _ | reload _ =>
      rw [show _ = _ from ha] at ha'
      cases ha'
    | speak hd _ => exact .inl (by rw [hd]; rfl)
  · rw [hs, ha] at ha'
    cases ha'

/-! ## Asking afresh -/

/-- At moment `k` call `j` has the turn and has shown nothing yet. What it shows next is a first prompt. -/
structure AsksAfresh (r : Run) (k j : Nat) (call : Call) (d : Decision) : Prop where
  asks : (r.session k).call? j = some (call, .asking d 1 false)
  holds : (r.session k).holder = some j
  shows : r.event k = .show_ j →
    (r.session (k + 1)).asked = (r.session k).asked ++ [⟨call.action, call.args, d, 1⟩]

theorem asksAfresh (hi : (r.session k).call? j = some (call, .asking d 1 false)) :
    r.AsksAfresh k j call d := by
  refine ⟨hi, r.holder_of_asking hi, fun he => ?_⟩
  rw [session, he]
  exact asked_after_show hi

/-- A call that begins, needs consent and finds nothing decided asks, or waits for its turn if there are others
before it. -/
theorem Begins.asks_or_waits (hb : r.Begins k j call) (hd : (r.session k).Seeks call d)
    (ha : (r.session k).consent.askedOnce = false) (hk : (r.session k).config.canAsk = true) :
    ((r.session k).holder = none ∧ (r.session k).queue = [] → r.AsksAfresh (k + 1) j call d) ∧
    (¬ ((r.session k).holder = none ∧ (r.session k).queue = []) →
      (r.session (k + 1)).call? j = some (call, .queued d)) := by
  obtain ⟨u, q, hp, heq⟩ := hb.progress
  have hq : (r.session (k + 1)).call? j = some (call, q) := by
    rw [heq]
    exact hp.call?_self hb.2
  -- the rules say one thing about the call
  have same : ∀ {d'}, (r.session k).Seeks call d' → d' = d := fun hd' =>
    (Except.ok.inj (hd.decided.symm.trans hd'.decided)).symm
  cases hp with
  | enter hd' _ _ hh hqueue =>
    obtain rfl := same hd'
    exact ⟨fun _ => asksAfresh hq, fun h => absurd ⟨hh, hqueue⟩ h⟩
  | line hd' _ _ hw =>
    obtain rfl := same hd'
    refine ⟨fun h => ?_, fun _ => hq⟩
    rcases hw with hh | hqueue
    · exact absurd h.1 hh
    · exact absurd h.2 hqueue
  | undecidable hv =>
    rw [hd.decided] at hv
    cases hv
  | harmless _ hc =>
    rw [hd.changes] at hc
    cases hc
  | denied hv _ hdeny =>
    rw [hd.decided] at hv
    obtain rfl := Except.ok.inj hv
    exact absurd hdeny hd.undenied
  | late _ hdec =>
    rw [ha] at hdec
    cases hdec
  | alone _ _ hno =>
    rw [hk] at hno
    cases hno

theorem leads (hmk : m ≤ k) : (r.session m).Leads (r.session k) := by
  induction hmk with
  | refl => exact .refl
  | step _ ih => exact .after _ ih

/-- As long as no prompt has been shown since nobody asked, whoever asks has shown none. -/
theorem first_attempt (hfree : (r.session m).holder = none) (hmk : m ≤ k)
    (hasked : (r.session k).asked = (r.session m).asked) {shown : Bool}
    (hi : (r.session k).call? i = some (call, .asking d attempt shown)) : attempt = 1 ∧ shown = false := by
  induction hmk generalizing i call d attempt shown with
  | refl =>
    rw [r.holder_of_asking hi] at hfree
    cases hfree
  | @step k hmk ih =>
    -- no prompt was shown before the last moment, and none at it
    obtain ⟨before, hbefore⟩ := (leads (r := r) hmk).asked
    obtain ⟨last, hlast⟩ := (leads (r := r) (Nat.le_succ k)).asked
    obtain ⟨rfl, rfl⟩ : before = [] ∧ last = [] := by
      rw [hlast, hbefore, List.append_assoc] at hasked
      simpa using hasked
    rw [List.append_nil] at hbefore hlast
    rcases r.call?_next_cases hi with hold | ⟨-, hnew⟩ | ⟨p, u, hold, hp, hs⟩
    · exact ih hbefore hold
    · cases hnew
    · rw [hs, land_asked] at hlast
      generalize hq : Phase.asking d attempt shown = q at hp
      generalize r.event k = e at hp
      cases hp with
      | enter | takeTurn =>
        cases hq
        exact ⟨rfl, rfl⟩
      | show_ => simp at hlast
      | retry => cases (ih hbefore hold).2
      | late | pass | settle | decline => exact absurd hq.symm (Phase.following_ne_asking _ _ _ _ _ _)
      | _ => cases hq

/-- The first prompt that is shown after nobody asked is a first prompt of its call. -/
theorem Shows.first (hfree : (r.session m).holder = none) (hmk : m ≤ k) {prompt : Prompt}
    (h : r.Shows k j prompt) (hasked : (r.session k).asked = (r.session m).asked) : prompt.attempt = 1 := by
  obtain ⟨he, hgrow⟩ := h
  rcases subject_cases (n := k) (i := j) (by rw [he]; rfl) with hs | ⟨call, p, u, q, hj, hp, hs⟩
  · rw [hs] at hgrow
    simp at hgrow
  · rw [hs, land_asked] at hgrow
    rcases hp.asked with hsame | ⟨d, attempt, rfl, -, -, hshown⟩
    · rw [hsame] at hgrow
      simp at hgrow
    · rw [hshown] at hgrow
      have hprompt := List.append_cancel_left hgrow
      obtain ⟨rfl, -⟩ := first_attempt hfree hmk hasked hj
      exact (congrArg Prompt.attempt (List.cons.inj hprompt).1).symm

/-! ## What the failure leaves behind -/

/-- Call `i`, whose prompter failed at moment `n`, leaves the session as it was. -/
structure LeftAsItWas (r : Run) (n i : Nat) (call : Call) (message : String) : Prop where
  /-- The call ends in just this error and gives the turn back, and nothing else is different. -/
  next : r.session (n + 1) = { r.session n with
    calls := (r.session n).calls.set i (call, .failed (.prompter message)), holder := none }
  failed : ∀ k > n, (r.session k).call? i = some (call, .failed (.prompter message))
  unaudited : r.Unaudited n i
  unexecuted : ∀ k call' d, ¬ r.Executes k i call' d
  /-- Nothing is decided until somebody else does so. -/
  undecided : ∀ k > n, (r.session k).consent = .fresh ∨ ∃ m, n < m ∧ m < k ∧
    ((r.event m).decision?.isSome = true ∨ ∃ j ≠ i, r.Records m j)
  /-- Until then, whoever waits for the turn and gets it asks from the beginning. -/
  waiting : ∀ k > n, (r.session k).consent = .fresh → (r.session k).holder = none →
    ∀ j call' d, (r.session k).call? j = some (call', .queued d) → r.event k = .takeTurn j →
      r.AsksAfresh (k + 1) j call' d
  /-- And so does whoever begins later and needs consent, unless there are others before it. -/
  later : ∀ k > n, (r.session k).consent = .fresh →
    ∀ j call' d, r.Begins k j call' → (r.session k).Seeks call' d →
      ((r.session k).holder = none ∧ (r.session k).queue = [] → r.AsksAfresh (k + 1) j call' d) ∧
      (¬ ((r.session k).holder = none ∧ (r.session k).queue = []) →
        (r.session (k + 1)).call? j = some (call', .queued d))
  /-- The next prompt that is shown is a first one, whosever it is. -/
  first : ∀ k > n, (r.session k).asked = (r.session n).asked →
    ∀ j prompt, r.Shows k j prompt → prompt.attempt = 1

/-- A call that has failed while it asked never has its action executed. -/
theorem unexecuted {f : CallFailure} (hi : (r.session n).call? i = some (call, .asking d attempt true))
    (hf : (r.session (n + 1)).call? i = some (call, .failed f)) (k : Nat) (call' : Call) (d' : Decision) :
    ¬ r.Executes k i call' d' := by
  rintro ⟨-, hrun, -⟩
  rcases Nat.lt_or_ge k n with hlt | hge
  · obtain ⟨q, hq, hran⟩ := ran_stays hlt hrun trivial
    rw [hi] at hq
    cases hq
    exact hran.elim
  · have hgone := r.failed_stays (Nat.succ_le_succ hge) hf
    rw [hrun] at hgone
    cases hgone

theorem leftAsItWas (he : r.event n = .promptFails i message)
    (hi : (r.session n).call? i = some (call, .asking d attempt true))
    (ha : (r.session n).consent.askedOnce = false) : r.LeftAsItWas n i call message := by
  have hnext := r.next_of_step (n := n) (by rw [he]; exact step_promptFails hi message)
  have hself : (r.session (n + 1)).call? i = some (call, .failed (.prompter message)) := by
    obtain ⟨hlt, -⟩ := List.getElem?_eq_some_iff.mp hi
    rw [hnext, call?, List.getElem?_set_self hlt]
  have hfailed : ∀ k > n, (r.session k).call? i = some (call, .failed (.prompter message)) :=
    fun k hk => r.failed_stays hk hself
  have hfree : (r.session (n + 1)).holder = none := by rw [hnext]
  have hasks : ∀ k, (r.session k).config.canAsk = true := by
    intro k
    rw [r.session_config, ← r.session_config n]
    exact r.attended n i call _ hi (.inl rfl)
  refine ⟨hnext, hfailed, unaudited hi rfl hself, unexecuted hi hself, fun k hk => ?_,
    fun k _ hfresh hh j call' d' hj he' => ?_, fun k _ hfresh j call' d' hb hd => ?_,
    fun k hk hasked j prompt hshow => ?_⟩
  · -- between the failure and a moment at which something is decided there is one at which it was
    induction hk with
    | refl =>
      refine .inl ?_
      rw [hnext]
      exact (r.latched n).eq_fresh ha
    | @step k hk ih =>
      have hlt : n < k := hk
      rcases ih with hfresh | ⟨m, hm, hmk, hwho⟩
      · cases ha' : (r.session (k + 1)).consent.askedOnce with
        | false => exact .inl ((r.latched (k + 1)).eq_fresh ha')
        | true =>
          refine .inr ⟨k, hlt, Nat.lt_succ_self k, ?_⟩
          rcases decides_or_records (by rw [hfresh]; rfl) ha' with hout | ⟨j, hrec⟩
          · exact .inl hout
          · refine .inr ⟨j, ?_, hrec⟩
            rintro rfl
            obtain ⟨call', d', attempt', shown', hj, -⟩ := hrec
            rw [hfailed k hlt] at hj
            cases hj
      · exact .inr ⟨m, hm, Nat.lt_succ_of_lt hmk, hwho⟩
  · exact asksAfresh (takeTurn_asks hj hh (by rw [hfresh]; rfl) he')
  · exact hb.asks_or_waits hd (by rw [hfresh]; rfl) (hasks k)
  · refine hshow.first hfree hk (hasked.trans ?_)
    rw [hnext]

end Run

namespace Loop

open Session

variable {l : Loop} {i : Nat} {call : Call} {d : Decision} {attempt : Nat}

/-- On the loop, the error of the prompter is what its call goes on with, and the first of the queue is called at
once. -/
theorem hear_fails (hs : l.session.TurnHeld) (hi : l.session.call? i = some (call, .asking d attempt true))
    (message : String) :
    (l.hear i (.fails message)).session = l.session.after (.promptFails i message) ∧
      (l.hear i (.fails message)).Handed := by
  have hholder : l.session.holder = some i := (hs i).mpr ⟨call, _, hi, rfl⟩
  have hafter : (l.advance (.promptFails i message)).session.call? i
      = some (call, .failed (.prompter message)) := by
    obtain ⟨hlt, -⟩ := List.getElem?_eq_some_iff.mp hi
    rw [session_advance, Session.after, step_promptFails hi]
    simp [call?, List.getElem?_set_self hlt]
  have hhanded : l.Handed := fun hfree => by
    rw [hholder] at hfree
    cases hfree
  refine ⟨(session_settle_of_isOver _ hafter rfl).trans (session_advance ..), ?_⟩
  refine handed_settle _ (handed_advance (.inl hhanded)) fun call' d' hq _ => ?_
  rw [hafter] at hq
  cases hq

end Loop

/-! ## Every failure of the prompter -/

/-- What a failure of the prompter does while nothing is decided. Its call ends in just this error, and leaves the
session as it was: no entry on the audit log, no execution, no decision, and the turn to ask is free. As long as
nobody else decides, whoever gets the turn next, from the queue or later, asks from the first prompt on.

On the loop, with or without a time limit, the first of the queue is called as soon as the call has ended. And
without a time limit nobody is left waiting: if the turn is free and nothing is decided then after some turns the
person is asked again, from the first prompt on, unless all who wait are cancelled before. -/
theorem prompter_failure_leaves_session (r : Run) (l : Loop) :
    (∀ (n i : Nat) (call : Call) (d : Decision) (attempt : Nat) (message : String),
      r.event n = .promptFails i message →
      (r.session n).call? i = some (call, .asking d attempt true) →
      (r.session n).consent.askedOnce = false → r.LeftAsItWas n i call message) ∧
    (∀ config rules, Session.Leads { config, rules } l.session →
      ∀ (i : Nat) (call : Call) (d : Decision) (attempt : Nat) (message : String),
        l.session.call? i = some (call, .asking d attempt true) →
          (l.hear i (.fails message)).session = l.session.after (.promptFails i message) ∧
          (l.hear i (.fails message)).session.holder = none ∧
          ∀ j called rest, (l.hear i (.fails message)).waiters = (j, called) :: rest → called = true) ∧
    (l.Serves → l.session.Open → ∀ (i : Nat) (call : Call) (d : Decision),
      l.session.call? i = some (call, .queued d) →
        ∃ turns, Loop.Resolved i call l.session (Loop.runFor turns l).session) := by
  refine ⟨fun n i call d attempt message he hi ha => Run.leftAsItWas he hi ha, ?_, ?_⟩
  · intro config rules hleads i call d attempt message hi
    obtain ⟨hsession, hhanded⟩ :=
      Loop.hear_fails (hleads.turnHeld (Session.turnHeld_init config rules)) hi message
    have hfree : (l.hear i (.fails message)).session.holder = none := by
      rw [hsession, Session.after, Session.step_promptFails hi]
      rfl
    refine ⟨hsession, hfree, fun j called rest hwaiters => ?_⟩
    exact hhanded hfree (j, called) (by rw [hwaiters]; rfl)
  · intro hserves hopen i call d hi
    exact Loop.Waits.resolved ⟨hserves, hopen, hi⟩

namespace Loop

open Run

/-- A loop with two calls, whose prompter fails for the first prompt and brings a yes for the second. -/
def lostThenYes : Loop :=
  (Loop.submit { session := { config := {}, rules := {} },
                 replies := [{ turns := 1, ending := .fails "lost" },
                             { turns := 1, ending := .reply (some "yes") }] } create).submit purge

theorem lostThenYes_serves (turns : Nat) : (runFor turns lostThenYes).Serves :=
  (((Serves.new _ _ _ _).submit create).submit purge).runFor turns

/-- Of two calls the first asks and the second waits. The prompter fails for the first one, and the second shows its
first prompt when it gets the turn; nothing has been decided by then. On a loop the second one is called in the turn
in which the first one ends, and then the person is asked again. -/
theorem oneAsksOneWaits_fails :
    (((oneAsksOneWaits [.promptFails 0 "lost", .takeTurn 1]).session 7).call? 0 =
        some (create, .failed (.prompter "lost")) ∧
      ((oneAsksOneWaits [.promptFails 0 "lost", .takeTurn 1]).session 7).consent = .fresh ∧
      ∃ d, (oneAsksOneWaits [.promptFails 0 "lost", .takeTurn 1]).AsksAfresh 7 1 purge d) ∧
    (∃ rest, ((runFor 2 lostThenYes).hear 0 (.fails "lost")).waiters = (1, true) :: rest) ∧
    ∃ turns, Resolved 1 purge (runFor 3 lostThenYes).session
      (runFor turns (runFor 3 lostThenYes)).session := by
  refine ⟨?_, ?_, ?_⟩
  · obtain ⟨d, hi⟩ := oneAsksOneWaits_asks [.promptFails 0 "lost", .takeTurn 1]
    obtain ⟨d', hj⟩ := oneAsksOneWaits_waits [.promptFails 0 "lost", .takeTurn 1]
    obtain ⟨hfails, -⟩ :=
      prompter_failure_leaves_session (oneAsksOneWaits [.promptFails 0 "lost", .takeTurn 1]) lostThenYes
    have hleft := hfails 5 0 create d 1 "lost" rfl hi (by decide +kernel)
    have hfresh : ((oneAsksOneWaits [.promptFails 0 "lost", .takeTurn 1]).session 6).consent = .fresh := by
      rcases hleft.undecided 6 (by decide) with hfresh | ⟨m, hm, hmk, -⟩
      · exact hfresh
      · omega
    have hj' : ((oneAsksOneWaits [.promptFails 0 "lost", .takeTurn 1]).session 6).call? 1
        = some (purge, .queued d') := by
      rw [hleft.next, Session.call?, List.getElem?_set_ne (by decide)]
      exact hj
    refine ⟨hleft.failed 7 (by decide), by decide +kernel, d', ?_⟩
    exact hleft.waiting 6 (by decide) hfresh (by rw [hleft.next]) 1 purge d' hj' rfl
  · obtain ⟨config, rules, hleads⟩ := (lostThenYes_serves 2).leads
    obtain ⟨-, hhear, -⟩ := prompter_failure_leaves_session (oneAsksOneWaits []) (runFor 2 lostThenYes)
    obtain ⟨-, -, hcalled⟩ := hhear config rules hleads 0 create _ 1 "lost" rfl
    have horder : ((runFor 2 lostThenYes).hear 0 (.fails "lost")).order = [1] := by decide +kernel
    rw [order] at horder
    obtain ⟨⟨j, called⟩, rest, hwaiters, rfl, -⟩ := List.map_eq_cons_iff.mp horder
    obtain rfl := hcalled _ called rest hwaiters
    exact ⟨rest, hwaiters⟩
  · obtain ⟨-, -, hresolved⟩ := prompter_failure_leaves_session (oneAsksOneWaits []) (runFor 3 lostThenYes)
    exact hresolved (lostThenYes_serves 3) ⟨by decide +kernel, by decide +kernel⟩ 1 purge _ rfl

end Loop
end PolicyGate
