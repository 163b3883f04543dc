import PolicyGate.Consent.Loop
import PolicyGate.Proofs.Consent.Run

/-!
# What the loop serves is a run

The loop decides in which order things happen, and it touches the session only by `Session.after`. So
whatever it does with its threads, its line and its scripts, the session it arrives at is one that a list of
events leads to (`Loop.finish_leads` and its companions for the other commands), and each of these is the
session of some run at some moment (`Session.Leads.exists_run`). What is proved of all runs holds for
everything that is served. Only `Loop.consult` is not covered: it asks about a plan outside of any call.
-/

namespace PolicyGate

/-- `s.Leads t`: some events make `t` of `s`. -/
inductive Session.Leads (s : Session) : Session → Prop
  | refl : Leads s s
  | after {t} (e : Event) : Leads s t → Leads s (t.after e)

namespace Run

/-- A session depends only on the events before it. -/
theorem session_congr {r r' : Run} {n : Nat} (hc : r.config = r'.config) (hr : r.rules = r'.rules)
    (he : ∀ k < n, r.event k = r'.event k) : r.session n = r'.session n := by
  induction n with
  | zero => simp only [session, hc, hr]
  | succ n ih =>
    have hn := ih fun k hk => he k (Nat.lt_succ_of_lt hk)
    rw [session, session, hn, he n (Nat.lt_succ_self n)]

end Run

/-- What a new session leads to is the session of a run. -/
theorem Session.Leads.exists_run {config : GateConfig} {rules : RuleSet} {t : Session}
    (h : Leads { config, rules } t) :
    ∃ r : Run, r.config = config ∧ r.rules = rules ∧ ∃ n, r.session n = t := by
  induction h with
  | refl => exact ⟨.ofList config rules [], rfl, rfl, 0, rfl⟩
  | @after t e _ ih =>
    obtain ⟨r, hc, hr, n, rfl⟩ := ih
    let r' : Run := { r with event := fun k => if k = n then e else r.event k }
    have hn : r'.session n = r.session n :=
      Run.session_congr rfl rfl fun k hk => if_neg (Nat.ne_of_lt hk)
    have he : r'.event n = e := if_pos rfl
    exact ⟨r', hc, hr, n + 1, by rw [Run.session, hn, he]⟩

namespace Loop

open Session

variable {s : Session} {l : Loop}

/-! ## What leaves the session alone -/

@[simp] theorem session_callFirst (l : Loop) : l.callFirst.session = l.session := by
  unfold callFirst
  split <;> rfl

@[simp] theorem session_nextRun (l : Loop) : l.nextRun.2.session = l.session := by
  unfold nextRun
  split <;> rfl

@[simp] theorem session_stop (l : Loop) (i attempt : Nat) (why : StopReason) (asker : Asker) :
    (l.stop i attempt why asker).session = l.session := by
  cases asker <;> rfl

@[simp] theorem session_askerGoesOn (l : Loop) (i attempt : Nat) (watch : Watch) (turns : Nat)
    (ending : ReplyEnding) :
    (l.askerGoesOn i attempt watch turns ending).session = l.session := by
  unfold askerGoesOn
  split <;> rfl

@[simp] theorem session_notice (l : Loop) (i attempt : Nat) :
    (l.notice i attempt).session = l.session := by
  unfold notice
  split <;> rfl

theorem session_timeUp? {l' : Loop} (h : l.timeUp? = some l') : l'.session = l.session := by
  obtain ⟨i, -, hi⟩ := List.exists_of_findSome?_eq_some h
  split at hi
  · obtain rfl := Option.some.inj hi
    rfl
  · cases hi

/-! ## What happens in the session -/

theorem happen_leads (h : s.Leads l.session) (e : Event) : s.Leads (l.happen e).session :=
  .after e h

/-- Calling the next one in the queue is nothing that happens in the session. -/
theorem callFirst_leads (h : s.Leads l.session) (free : Bool) :
    s.Leads (if free then l.callFirst else l).session := by
  split
  · rwa [session_callFirst]
  · exact h

theorem advance_leads (h : s.Leads l.session) (e : Event) : s.Leads (l.advance e).session :=
  callFirst_leads (happen_leads h e) _

theorem interject_leads (h : s.Leads l.session) (x : Interjection) :
    s.Leads (l.interject x).session := by
  cases x with
  | decide raw => exact happen_leads h (.decide raw)
  | withdraw => exact happen_leads h .withdraw
  | reload rules => exact happen_leads h (.reload rules)

theorem interjections_leads (h : s.Leads l.session) (xs : List Interjection) :
    s.Leads (xs.foldl interject l).session := by
  induction xs generalizing l with
  | nil => exact h
  | cons x xs ih => exact ih (interject_leads h x)

theorem nextReply_leads (h : s.Leads l.session) : s.Leads l.nextReply.1.session := by
  unfold nextReply
  split
  · exact h
  · rename_i script rest _
    exact interjections_leads (l := { l with replies := rest }) h script.before

theorem present_leads (h : s.Leads l.session) (i : Nat) : s.Leads (l.present i).1.session :=
  nextReply_leads (happen_leads h (.show_ i))

/-- Going on with a call is events of this call, and what a person does while reading its prompts. -/
theorem settle_leads (h : s.Leads l.session) (i fuel : Nat) : s.Leads (settle i fuel l).session := by
  induction fuel generalizing l with
  | zero => exact h
  | succ fuel ih =>
    unfold settle
    split
    · exact h
    · split
      · have hp := present_leads h i
        split
        · rename_i l' ending heq
          rw [heq] at hp
          split
          · exact ih (advance_leads hp _)
          · exact hp
        · rename_i l' turns ending _ heq
          rw [heq] at hp
          exact hp
      · exact h
      · exact h
    · have hr := session_nextRun l
      split
      · rename_i answer l' heq
        rw [heq] at hr
        exact ih (advance_leads (hr ▸ h) _)
      · rename_i turns answer l' _ heq
        rw [heq] at hr
        exact hr ▸ h
    · exact h

theorem proceed_leads (h : s.Leads l.session) (i : Nat) (e : Event) :
    s.Leads (l.proceed i e).session :=
  settle_leads (advance_leads h e) i _

theorem hear_leads (h : s.Leads l.session) (i : Nat) (ending : ReplyEnding) :
    s.Leads (l.hear i ending).session := by
  unfold hear
  split
  · exact proceed_leads h i _
  · exact h

theorem resume_leads (h : s.Leads l.session) (i : Nat) : s.Leads (l.resume i).session := by
  unfold resume
  split
  rename_i wait struck _
  cases wait with
  | starting => exact proceed_leads h i _
  | called =>
    have hleft : s.Leads (l.leave i).session := h
    cases struck with
    | true => exact callFirst_leads (proceed_leads hleft i (.cancel i)) _
    | false => exact proceed_leads hleft i (.takeTurn i)
  | leaving => exact callFirst_leads (l := (l.leave i).set i .over) h _
  | listening turns ending =>
    cases struck with
    | true => exact proceed_leads h i (.cancel i)
    | false =>
      simp only [Bool.false_eq_true, if_false]
      split
      · exact h
      · exact hear_leads h i ending
  | roused => exact proceed_leads h i (.cancel i)
  | executing turns answer =>
    cases struck with
    | true => exact proceed_leads h i (.cancel i)
    | false =>
      simp only [Bool.false_eq_true, if_false]
      split
      · exact h
      · exact proceed_leads h i (.finish i answer)
  | watch attempt watch asker =>
    simp only
    split
    · split
      · exact proceed_leads h i (.cancel i)
      · split
        · exact proceed_leads h i (.timeOut i)
        · exact proceed_leads h i (.cancel i)
    · exact hear_leads h i _
    · exact hear_leads h i _
    · rwa [session_stop]
    · rwa [session_stop]
    · exact h
  | _ => exact h

theorem ask_leads (h : s.Leads l.session) (i attempt : Nat) : s.Leads (l.ask i attempt).session := by
  have strike : ∀ {l' : Loop} {struck : Bool}, s.Leads l'.session →
      s.Leads (if struck then l'.strike i else l').session := by
    intro l' struck h'
    split <;> exact h'
  unfold ask
  refine strike ?_
  split
  · exact h
  · exact h
  · exact h
  · rw [session_askerGoesOn]
    exact present_leads h i
  · rwa [session_askerGoesOn]
  · exact h

theorem cancel_leads (h : s.Leads l.session) (i : Nat) : s.Leads (l.cancel i).session := by
  unfold cancel
  split
  · exact h
  · exact happen_leads h (.cancel i)
  all_goals exact h

theorem turn_leads (h : s.Leads l.session) (job : Job) : s.Leads (l.turn job).session := by
  cases job with
  | call i => exact resume_leads h i
  | asker i attempt => exact ask_leads h i attempt
  | notice i attempt =>
    rw [turn, session_notice]
    exact h
  | strike i turns =>
    simp only [turn]
    split
    · exact h
    · exact cancel_leads h i

/-! ## What the loop is told to do -/

/-- Any number of turns of the loop is a list of events. -/
theorem runFor_leads (h : s.Leads l.session) (turns : Nat) : s.Leads (runFor turns l).session := by
  induction turns generalizing l with
  | zero => exact h
  | succ turns ih =>
    unfold runFor
    split
    · rename_i job rest _
      exact ih (turn_leads (l := { l with line := rest }) h job)
    · split
      · rename_i l' htime
        exact ih (session_timeUp? htime ▸ h)
      · exact h

theorem finish_leads (h : s.Leads l.session) : s.Leads l.finish.session :=
  runFor_leads h _

theorem submit_leads (h : s.Leads l.session) (call : Call) : s.Leads (l.submit call).session :=
  happen_leads h (.arrive call)

theorem cancelAfter_leads (h : s.Leads l.session) (i turns : Nat) :
    s.Leads (l.cancelAfter i turns).session := by
  unfold cancelAfter
  split
  · exact cancel_leads h i
  · exact h

/-- The session of a loop that has served its line is that of a run. -/
theorem exists_run_finish {config : GateConfig} {rules : RuleSet}
    (h : Session.Leads { config, rules } l.session) :
    ∃ r : Run, r.config = config ∧ r.rules = rules ∧ ∃ n, r.session n = l.finish.session :=
  (finish_leads h).exists_run

end Loop
end PolicyGate
