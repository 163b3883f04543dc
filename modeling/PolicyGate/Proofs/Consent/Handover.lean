import PolicyGate.Proofs.Consent.Cancellation
import PolicyGate.Proofs.Consent.Places

/-!
# How the turn to ask is handed over

A call that waits for the turn to ask does not stand in the line. It waits in the queue until it is called, and
only the first of the queue is ever called. So if a turn became free and nobody were called, all who wait would
wait for ever. The moments at which that could happen are those at which somebody goes: the call that has the
turn gives it back, the first of the queue is cancelled after it was called, or gets the turn and passes it on
because something was decided meanwhile.

`Loop.Handed` says that it does not happen. Between the turns of the loop, whenever the turn to ask is free, the
first of the queue has been called, and then its turn in the line is due (`Loop.Serves.handed_over`).
-/

namespace PolicyGate

namespace Session

variable {s t u : Session} {i : Nat} {call : Call} {d : Decision} {e : Event} {p q : Phase}

theorem Leads.inLine (h : s.Leads t) (hs : s.InLine) : t.InLine := by
  induction h with
  | refl => exact hs
  | @after t e _ ih =>
    rcases t.after_cases e with hchange | ⟨hsame, -⟩
    · exact inLine_change ih hchange
    · rw [hsame]
      exact ih

/-- What belongs to no call leaves the turn where it is. -/
theorem holder_after_of_none (he : e.subject? = none) : (s.after e).holder = s.holder := by
  rcases s.after_cases e with h | ⟨h, -⟩
  · generalize s.after e = t at h
    cases h with
    | call _ hp =>
      rw [hp.subject?] at he
      cases he
    | arrive _ | speak _ _ | reload _ => rfl
  · rw [h]

/-- So does the prompt of a call when it is shown. -/
theorem holder_after_show (i : Nat) : (s.after (.show_ i)).holder = s.holder := by
  rcases s.after_subject_cases (e := .show_ i) rfl with h | ⟨call, p, u, q, -, hp, h⟩
  · rw [h]
  · rw [h, land_holder]
    cases hp with
    | show_ => rfl
    | decline hg => cases hg
    | collide hg => rcases hg with hg | hg <;> cases hg

/-- A call joins the queue when it begins, and at no other moment. -/
theorem Progress.eq_begin_of_queued (h : Progress s i call e p u (.queued d)) : e = .begin i := by
  generalize hq : Phase.queued d = q at h
  cases h with
  | line | late => rfl
  | pass | settle | decline =>
    have hqueued := congrArg Phase.isQueued hq
    rw [Phase.isQueued_following] at hqueued
    cases hqueued
  | _ => cases hq

theorem not_queued_after (hi : s.call? i = some (call, p)) (hp : p.isQueued = false) (he : e ≠ .begin i)
    {call' : Call} : (s.after e).call? i ≠ some (call', .queued d) := by
  intro hq
  rcases s.after_cases e with h | ⟨h, -⟩
  · rcases h.call? hi with hsame | ⟨u, q, hprog, heq⟩
    · rw [hq] at hsame
      cases hsame
      cases hp
    · rw [heq, hprog.call?_self hi] at hq
      cases hq
      exact he hprog.eq_begin_of_queued
  · rw [h, hi] at hq
    cases hq
    cases hp

/-- Who joins the queue although the turn is free finds others there. -/
theorem queue_ne_nil_of_begin (hi : s.call? i = some (call, .ready)) {call' : Call}
    (hq : (s.after (.begin i)).call? i = some (call', .queued d))
    (hfree : (s.after (.begin i)).holder = none) : s.queue ≠ [] := by
  obtain ⟨u, q, hp, heq⟩ := exists_progress_of_step (e := .begin i) hi rfl (by simp [step, hi])
  rw [heq, hp.call?_self hi] at hq
  rw [heq, land_holder] at hfree
  obtain ⟨-, rfl⟩ := Prod.mk.inj (Option.some.inj hq)
  generalize hphase : Phase.queued d = q at hp
  cases hp with
  | line _ _ _ hw => exact hw.resolve_left fun hh => hh hfree
  | late =>
    have hqueued := congrArg Phase.isQueued hphase
    rw [Phase.isQueued_following] at hqueued
    cases hqueued
  | _ => cases hphase

/-- Who gets the turn does not go on waiting for it while it is free. -/
theorem holder_of_takeTurn (hline : s.InLine) (hi : s.call? i = some (call, .queued d)) {call' : Call}
    {d' : Decision} (hq : (s.after (.takeTurn i)).call? i = some (call', .queued d')) :
    (s.after (.takeTurn i)).holder ≠ none := by
  intro hfree
  have hprogress : ∀ {u q}, Progress s i call (.takeTurn i) (.queued d) u q →
      s.after (.takeTurn i) = u.land i call q → False := by
    intro u q hp heq
    rw [heq, hp.call?_self hi] at hq
    cases hq
    cases hp.eq_begin_of_queued
  rcases s.after_subject_cases (e := .takeTurn i) rfl with hsame | ⟨call'', p, u, q, hi', hp, heq⟩
  · rw [hsame] at hfree
    have hmem : i ∈ s.queue := (hline.mem_iff i).mpr ⟨call, _, hi, rfl⟩
    have hstep := step_takeTurn hi hfree hmem
    obtain ⟨u, q, hp, heq⟩ := exists_progress_of_step hi rfl (by rw [hstep]; rfl)
    exact hprogress hp heq
  · rw [hi] at hi'
    cases hi'
    exact hprogress hp heq

end Session

namespace Loop

open Session

variable {l l' : Loop} {i j : Nat} {call : Call} {p : Phase} {e : Event}

/-! ## The first of the queue -/

/-- If the turn to ask is free, the first of the queue has been called. -/
def Handed (l : Loop) : Prop := l.session.holder = none → ∀ x ∈ l.waiters.head?, x.2 = true

theorem Handed.congr (h : l.Handed) (hholder : l'.session.holder = l.session.holder)
    (hwaiters : l'.waiters = l.waiters) : l'.Handed := by
  unfold Handed
  rw [hholder, hwaiters]
  exact h

/-- To call the first of the queue, unless that has been done, is all that it takes. -/
theorem handed_callFirst (l : Loop) : l.callFirst.Handed := by
  intro _ x hx
  unfold callFirst at hx
  split at hx
  · obtain rfl := Option.some.inj hx
    rfl
  · rename_i hfirst
    obtain ⟨i, called⟩ := x
    cases called with
    | true => rfl
    | false =>
      obtain ⟨rest, hrest⟩ := List.head?_eq_some_iff.mp hx
      exact absurd hrest (hfirst i rest)

theorem handed_ite_callFirst (l : Loop) :
    (if l.session.holder.isNone then l.callFirst else l).Handed := by
  split
  · exact handed_callFirst l
  · rename_i hheld
    intro hfree
    rw [hfree] at hheld
    exact absurd rfl hheld

theorem callFirst_waiters_ne_nil (h : l.waiters ≠ []) : l.callFirst.waiters ≠ [] := by
  unfold callFirst
  split
  · simp [enqueue, set]
  · exact h

/-- Whoever frees the turn calls the next, and so does a call that got the turn and did not need it. -/
theorem handed_advance (h : l.Handed ∨ ∃ i, e = .takeTurn i) : (l.advance e).Handed := by
  have key : ∀ entered : Bool, (entered = false → l.Handed) →
      (if (l.happen e).session.holder.isNone && (entered || l.session.holder.isSome)
        then (l.happen e).callFirst else l.happen e).Handed := by
    intro entered hbefore
    split
    · exact handed_callFirst _
    · rename_i hcall
      intro hfree
      rw [hfree] at hcall
      simp only [Option.isNone_none, Bool.true_and, Bool.or_eq_true, not_or, Bool.not_eq_true] at hcall
      -- the turn was free before, so whoever is first was called before
      exact hbefore hcall.1 (by simpa using hcall.2)
  rcases h with h | ⟨i, rfl⟩
  · exact key _ fun _ => h
  · exact key true (by simp)

theorem advance_waiters_ne_nil (e : Event) (h : l.waiters ≠ []) : (l.advance e).waiters ≠ [] := by
  have hite : ∀ b : Bool, (if b then (l.happen e).callFirst else l.happen e).waiters ≠ [] := by
    intro b
    cases b with
    | true => exact callFirst_waiters_ne_nil (l := l.happen e) h
    | false => exact h
  exact hite _

theorem handed_interject (h : l.Handed) (x : Interjection) : (l.interject x).Handed := by
  have hsame : ∀ e : Event, e.subject? = none → (l.happen e).Handed :=
    fun e he => h.congr (holder_after_of_none he) rfl
  cases x with
  | decide raw => exact hsame (.decide raw) rfl
  | withdraw => exact hsame .withdraw rfl
  | reload rules => exact hsame (.reload rules) rfl

theorem handed_interjections (h : l.Handed) (xs : List Interjection) :
    (xs.foldl interject l).Handed := by
  induction xs generalizing l with
  | nil => exact h
  | cons x xs ih => exact ih (handed_interject h x)

theorem handed_present (h : l.Handed) (i : Nat) : (l.present i).1.Handed := by
  have hshow : (l.happen (.show_ i)).Handed := h.congr (holder_after_show i) rfl
  unfold present nextReply
  split
  · exact hshow
  · rename_i script rest _
    exact handed_interjections (l := { l.happen (.show_ i) with replies := rest }) hshow script.before

theorem handed_nextRun (h : l.Handed) : l.nextRun.2.Handed := by
  unfold nextRun
  split
  · exact h
  · exact h

/-- What ends an asking does not begin a call. -/
theorem ending_ne_begin {ending : ReplyEnding} (he : ending.event j = some e) : e ≠ .begin j := by
  rintro rfl
  cases ending <;> cases he

/-- A call that goes on, and joins the queue only behind somebody if the turn is free, keeps this up. -/
theorem handed_settle (fuel : Nat) (h : l.Handed)
    (hjoin : ∀ call d, l.session.call? j = some (call, .queued d) → l.session.holder = none →
      l.waiters ≠ []) : (settle j fuel l).Handed := by
  induction fuel generalizing l with
  | zero => exact h
  | succ fuel ih =>
    -- after any event but its beginning, a call that did not wait for the turn does not do so now
    have go : ∀ {l' : Loop} {call : Call} {p : Phase} {e : Event}, l'.Handed →
        l'.session.call? j = some (call, p) → p.isQueued = false → e ≠ .begin j →
          (settle j fuel (l'.advance e)).Handed := by
      intro l' call p e h' hj hp he
      refine ih (handed_advance (.inl h')) fun call' d hq _ => ?_
      rw [session_advance] at hq
      exact absurd hq (not_queued_after hj hp he)
    unfold settle
    split
    · rename_i call d hj
      intro hfree x hx
      obtain ⟨first, rest, hwaiters⟩ := List.exists_cons_of_ne_nil (hjoin call d hj hfree)
      refine h hfree x ?_
      rw [hwaiters] at hx ⊢
      exact hx
    · rename_i call d attempt hj
      obtain ⟨hshown, -⟩ := present_cases hj
      have hpresent := handed_present h j
      split
      · split
        · rename_i l' ending heq
          rw [heq] at hshown hpresent
          split
          · rename_i e he
            exact go hpresent hshown rfl (ending_ne_begin he)
          · exact hpresent
        · rename_i l' turns ending _ heq
          rw [heq] at hpresent
          exact hpresent
      · exact h
      · exact h
    · rename_i call d hj
      have hsession := session_nextRun l
      have hrun := handed_nextRun h
      split
      · rename_i answer l' heq
        rw [heq] at hsession hrun
        have hj' : l'.session.call? j = some (call, .running d) := by rw [← hj, ← hsession]
        exact go hrun hj' rfl (by simp)
      · rename_i turns answer l' _ heq
        rw [heq] at hrun
        exact hrun
    · exact h

/-! ## Turns -/

/-- A call that goes on after an event by which it cannot have joined the queue. -/
theorem handed_proceed (h : l.Handed ∨ ∃ i, e = .takeTurn i)
    (hjoin : ∀ call d, (l.session.after e).call? j = some (call, .queued d) →
      (l.session.after e).holder = none → l.waiters ≠ []) : (l.proceed j e).Handed := by
  refine handed_settle _ (handed_advance h) fun call d hq hfree => ?_
  rw [session_advance] at hq hfree
  exact advance_waiters_ne_nil e (hjoin call d hq hfree)

theorem handed_proceed_of_not_queued (h : l.Handed) (hj : l.session.call? j = some (call, p))
    (hp : p.isQueued = false) (he : e ≠ .begin j) : (l.proceed j e).Handed :=
  handed_proceed (.inl h) fun _ _ hq _ => absurd hq (not_queued_after hj hp he)

theorem handed_hear {d : Decision} {attempt : Nat} (h : l.Handed)
    (hj : l.session.call? j = some (call, .asking d attempt true)) (ending : ReplyEnding) :
    (l.hear j ending).Handed := by
  unfold hear
  cases he : ending.event j with
  | none => exact h
  | some e => exact handed_proceed_of_not_queued h hj rfl (ending_ne_begin he)

/-- Who is in the queue of the session is in that of the loop. -/
theorem Orderly.waiters_ne_nil (hl : l.Orderly none) (hline : l.session.InLine)
    (hqueue : l.session.queue ≠ []) : l.waiters ≠ [] := by
  obtain ⟨k, rest, hcons⟩ := List.exists_cons_of_ne_nil hqueue
  have hk : k ∈ l.session.queue := by rw [hcons]; exact List.mem_cons_self
  obtain ⟨call, p, hcall, hp⟩ := (hline.mem_iff k).mp hk
  have hplace := hl.place hcall
  have hmark : ∃ b, (l.thread k).wait.mark? = some b := by
    cases p with
    | queued d =>
      generalize (l.thread k).wait = w at hplace ⊢
      cases hplace with
      | inQueue => exact ⟨false, rfl⟩
      | called => exact ⟨true, rfl⟩
      | ended hp => cases hp
    | _ => cases hp
  obtain ⟨b, hb⟩ := hmark
  exact List.ne_nil_of_mem (hl.mem_waiters hb)

/-- The turn of a call. -/
theorem handed_resume {rest : List Job} (hl : l.Orderly none) (hline : l.session.InLine) (h : l.Handed) :
    (({ l with line := rest } : Loop).resume j).Handed := by
  have h' : ({ l with line := rest } : Loop).Handed := h
  have hresumes := hl.resumes j rest
  generalize ({ l with line := rest } : Loop).resume j = l' at hresumes ⊢
  cases hresumes with
  | stays => exact h'
  | begins hcall =>
    -- whoever has to wait although the turn is free waits behind somebody
    refine handed_proceed (.inl h') fun call' d hq hfree => ?_
    exact hl.waiters_ne_nil hline (queue_ne_nil_of_begin hcall hq hfree)
  | proceeds hcall hp _ _ _ hbegin => exact handed_proceed_of_not_queued h' hcall hp hbegin
  | hears hcall => exact handed_hear h' hcall _
  | waits => exact h'
  | takesTurn hcall =>
    refine handed_proceed (.inr ⟨j, rfl⟩) fun call' d' hq hfree => ?_
    exact absurd hfree (holder_of_takeTurn hline hcall hq)
  | givesUp | leaves => exact handed_ite_callFirst _

/-- A cancellation takes no turn away, and marks a call that leaves the queue as one that was called. -/
theorem handed_cancel (hl : l.Orderly none) (h : l.Handed) (i : Nat) : (l.cancel i).Handed := by
  unfold cancel
  split
  · exact h
  · rename_i hwait
    -- the call waited for the turn, so it did not have it
    have hholder : (l.session.after (.cancel i)).holder = l.session.holder := by
      rcases l.session.after_subject_cases (e := .cancel i) rfl with hsame | ⟨call, p, u, q, hi, hp, heq⟩
      · rw [hsame]
      · have hplace := hl.place hi
        rw [hwait] at hplace
        rw [heq, land_holder]
        cases hplace with
        | inQueue =>
          cases hp with
          | cancelQueued => rfl
    intro hfree x hx
    have hbefore := h (hholder.symm.trans hfree)
    have hx' : x ∈ (l.waiters.map fun x => (x.1, x.2 || x.1 = i)).head? := hx
    rw [List.head?_map, Option.mem_def, Option.map_eq_some_iff] at hx'
    obtain ⟨⟨k, called⟩, hk, rfl⟩ := hx'
    have hcalled : called = true := hbefore _ hk
    simp [hcalled]
  · exact h
  · exact h
  · exact h
  · exact h

theorem handed_turn {job : Job} {rest : List Job} (hl : l.Orderly none) (hline : l.session.InLine)
    (hcons : l.line = job :: rest) (h : l.Handed) :
    (({ l with line := rest } : Loop).turn job).Handed := by
  by_cases hcall : ∃ i, job = .call i
  · obtain ⟨i, rfl⟩ := hcall
    exact handed_resume hl hline h
  · rw [not_exists] at hcall
    have hl' := hl.take hcons fun i _ heq => absurd heq (hcall i)
    rcases hl'.other_turn_cases hcall with heq | heq | heq | ⟨job', heq⟩ <;> rw [heq]
    · exact h
    · exact h
    · exact handed_cancel hl' h _
    · exact h

theorem handed_runFor (hl : l.Orderly none) (hline : l.session.InLine) (h : l.Handed) (turns : Nat) :
    (runFor turns l).Handed := by
  induction turns generalizing l with
  | zero => exact h
  | succ turns ih =>
    unfold runFor
    split
    · rename_i job rest hcons
      have hleads := turn_leads (s := l.session) (l := { l with line := rest }) .refl job
      exact ih (turn_settles hl hcons).1 (hleads.inLine hline) (handed_turn hl hline hcons h)
    · rw [hl.timeUp_eq_none]
      exact h

/-! ## Loops that serve without a time limit -/

/-- What such a loop arrives at is a session that events lead to. -/
theorem Serves.leads (h : Serves l) : ∃ config rules, Leads { config, rules } l.session := by
  induction h with
  | new config rules replies runs => exact ⟨config, rules, .refl⟩
  | submit call _ ih =>
    obtain ⟨config, rules, h⟩ := ih
    exact ⟨config, rules, submit_leads h call⟩
  | cancelAfter i turns _ ih =>
    obtain ⟨config, rules, h⟩ := ih
    exact ⟨config, rules, cancelAfter_leads h i turns⟩
  | interject x _ ih =>
    obtain ⟨config, rules, h⟩ := ih
    exact ⟨config, rules, interject_leads h x⟩
  | runFor turns _ ih =>
    obtain ⟨config, rules, h⟩ := ih
    exact ⟨config, rules, runFor_leads h turns⟩

theorem Serves.inLine (h : Serves l) : l.session.InLine := by
  obtain ⟨config, rules, hleads⟩ := h.leads
  exact hleads.inLine (inLine_init config rules)

theorem Serves.handed (h : Serves l) : l.Handed := by
  induction h with
  | new config rules replies runs => exact fun _ x hx => nomatch hx
  | submit call _ ih => exact ih.congr (holder_after_of_none (e := .arrive call) rfl) rfl
  | @cancelAfter l i turns hl ih =>
    unfold Loop.cancelAfter
    split
    · exact handed_cancel hl.orderly ih i
    · exact ih
  | interject x _ ih => exact handed_interject ih x
  | runFor turns hl ih => exact handed_runFor hl.orderly hl.inLine ih turns

/-- Whenever the turn to ask is free and a call waits for it, the first of the queue has been called, and its
turn in the line is due. -/
theorem Serves.handed_over (h : Serves l) (hfree : l.session.holder = none) {d : Decision}
    (hi : l.session.call? i = some (call, .queued d)) :
    ∃ j rest, l.waiters = (j, true) :: rest ∧ .call j ∈ l.line := by
  have hl := h.orderly
  have hqueue : l.session.queue ≠ [] :=
    List.ne_nil_of_mem ((h.inLine.mem_iff i).mpr ⟨call, _, hi, rfl⟩)
  obtain ⟨⟨j, b⟩, rest, hcons⟩ := List.exists_cons_of_ne_nil (hl.waiters_ne_nil h.inLine hqueue)
  obtain rfl : b = true := h.handed hfree (j, b) (by rw [hcons]; rfl)
  refine ⟨j, rest, hcons, ?_⟩
  have hmark := hl.waiting (hcons ▸ List.mem_cons_self)
  -- it waits for its turn in the line, to ask or to leave the queue
  obtain ⟨x, hx⟩ : ∃ x, l.session.call? j = some x := by
    have hlt := lt_length_of_mark hmark
    rw [hl.length] at hlt
    exact ⟨_, List.getElem?_eq_getElem hlt⟩
  obtain ⟨call', p⟩ := x
  have hplace := hl.place hx
  generalize (l.thread j).wait = w at hplace hmark
  cases hplace with
  | called hmem | leaving hmem => exact hmem
  | _ => cases hmark

end Loop
end PolicyGate
