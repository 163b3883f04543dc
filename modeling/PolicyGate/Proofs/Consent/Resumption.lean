import Mathlib.Data.List.Basic
import PolicyGate.Proofs.Consent.Delivery

/-!
# Who waits is asked

A session is open while nobody asks and nothing is decided (`Session.Open`). On a loop without a time limit that
is a state of transition: if a call waits for the turn to ask, then the person is asked again, with a first prompt,
or the call is cancelled before it comes to that (`Loop.Serves.asked_again`).

There are two lines to follow. The first of the queue has been called and stands in the line of the loop, and each
turn of another job takes it one place forward. If it was cancelled meanwhile it does not ask in its turn but
leaves the queue, and that takes everybody else one place forward there. What keeps the session open over the
turns is that a decision needs a prompt, and the first prompt is what is waited for (`Loop.turn_opens`).
-/

namespace PolicyGate

namespace Session

variable {s t u : Session} {i j : Nat} {call : Call} {d : Decision} {e : Event} {p q : Phase}

/-- Nobody asks, and nothing is decided. -/
structure Open (s : Session) : Prop where
  free : s.holder = none
  undecided : s.consent.askedOnce = false

/-- Prompts have been shown since, and the first of them is the first one of its call. -/
def AskedSince (s t : Session) : Prop :=
  ∃ prompt more, t.asked = s.asked ++ prompt :: more ∧ prompt.attempt = 1

/-- The session is open as before and no prompt has been shown, or one has, and it was a first one. -/
def Opens (s t : Session) : Prop :=
  (t.Open ∧ t.asked = s.asked) ∨ s.AskedSince t

theorem Open.not_asking (h : s.Open) (hs : s.TurnHeld) (hi : s.call? i = some (call, p)) :
    p.isAsking = false :=
  hs.not_asking hi (by simp [h.free])

/-- What a call does in an open session: it takes the turn to ask, or the session stays open. -/
theorem Open.progress (h : s.Open) (hs : s.TurnHeld) (hi : s.call? i = some (call, p))
    (hp : Progress s i call e p u q) :
    u.asked = s.asked ∧ ((u.holder = none ∧ u.consent = s.consent) ∨ ∃ d, q = .asking d 1 false) := by
  have hask := h.not_asking hs hi
  refine ⟨hp.asked_of_not_asking hask, ?_⟩
  cases hp with
  | enter | takeTurn => exact .inr ⟨_, rfl⟩
  | show_ | settle | retry | decline | abandon | collide | promptFails => cases hask
  | pass => exact .inl ⟨rfl, rfl⟩
  | _ => exact .inl ⟨h.free, rfl⟩

theorem Open.after (h : s.Open) (hs : s.TurnHeld) (he : e.subject? = some i) :
    (s.after e).asked = s.asked ∧
      ((s.after e).Open ∨ ∃ call d, (s.after e).call? i = some (call, .asking d 1 false)) := by
  rcases s.after_subject_cases he with hsame | ⟨call, p, u, q, hi, hp, heq⟩
  · rw [hsame]
    exact ⟨rfl, .inl h⟩
  · obtain ⟨hasked, hcases⟩ := h.progress hs hi hp
    rw [heq, land_asked]
    refine ⟨hasked, ?_⟩
    rcases hcases with ⟨hfree, hconsent⟩ | ⟨d, rfl⟩
    · refine .inl ⟨by rw [land_holder, hfree], ?_⟩
      rw [land_consent, hconsent]
      exact h.undecided
    · exact .inr ⟨call, d, hp.call?_self hi⟩

/-- Whoever is called in an open session asks. -/
theorem Open.takeTurn (h : s.Open) (hline : s.InLine) (hi : s.call? i = some (call, .queued d)) :
    (s.after (.takeTurn i)).call? i = some (call, .asking d 1 false) := by
  have hmem : i ∈ s.queue := (hline.mem_iff i).mpr ⟨call, _, hi, rfl⟩
  have hstep := step_takeTurn hi h.free hmem
  obtain ⟨u, q, hp, heq⟩ := exists_progress_of_step hi rfl (by rw [hstep]; rfl)
  rw [heq, hp.call?_self hi]
  cases hp with
  | pass _ _ ha =>
    rw [h.undecided] at ha
    cases ha
  | takeTurn => rfl

/-- A cancellation is the end of a call that waits for the turn. -/
theorem cancelled_of_queued (hi : s.call? i = some (call, .queued d)) :
    (s.after (.cancel i)).call? i = some (call, .failed .cancelled) := by
  obtain ⟨u, q, hp, heq⟩ := exists_progress_of_step (e := .cancel i) hi rfl (by simp [step, hi])
  rw [heq, hp.call?_self hi]
  cases hp with
  | cancelQueued => rfl

/-- A prompt that is shown is the call's next one. -/
theorem asked_after_show {attempt : Nat} (hi : s.call? i = some (call, .asking d attempt false)) :
    (s.after (.show_ i)).asked = s.asked ++ [⟨call.action, call.args, d, attempt⟩] := by
  simp [Session.after, step, hi, move]

/-- Prompts that were shown stay shown. -/
theorem Leads.asked (h : s.Leads t) : ∃ more, t.asked = s.asked ++ more := by
  induction h with
  | refl => exact ⟨[], by simp⟩
  | @after t e _ ih =>
    obtain ⟨more, hmore⟩ := ih
    rcases t.after_cases e with hc | ⟨hsame, -⟩
    · generalize t.after e = t' at hc
      cases hc with
      | call _ hp =>
        rw [land_asked]
        rcases hp.asked with hu | ⟨_, _, -, -, -, hu⟩
        · exact ⟨more, hu.trans hmore⟩
        · exact ⟨_, by rw [hu, hmore, List.append_assoc]⟩
      | arrive _ | speak _ _ | reload _ => exact ⟨more, hmore⟩
    · rw [hsame]
      exact ⟨more, hmore⟩

theorem AskedSince.leads (h : s.AskedSince t) (hu : t.Leads u) : s.AskedSince u := by
  obtain ⟨prompt, more, hasked, hfirst⟩ := h
  obtain ⟨more', hmore⟩ := hu.asked
  exact ⟨prompt, more ++ more', by rw [hmore, hasked, List.append_assoc, List.cons_append], hfirst⟩

theorem AskedSince.of_asked (h : t.AskedSince u) (hasked : t.asked = s.asked) : s.AskedSince u := by
  unfold AskedSince
  rw [← hasked]
  exact h

theorem Leads.turnHeld (h : s.Leads t) (hs : s.TurnHeld) : t.TurnHeld := by
  induction h with
  | refl => exact hs
  | @after t e _ ih =>
    rcases t.after_cases e with hc | ⟨hsame, -⟩
    · exact turnHeld_change ih hc
    · rw [hsame]
      exact ih

end Session

namespace Loop

open Session

variable {l l' : Loop} {i j : Nat} {call : Call} {d : Decision} {e : Event}

/-! ## Turns in an open session -/

@[simp] theorem limit_callFirst (l : Loop) : l.callFirst.limit = l.limit := by
  unfold callFirst
  split <;> rfl

theorem limit_advance (l : Loop) (e : Event) : (l.advance e).limit = l.limit := by
  have hcall : ∀ free : Bool, (if free then (l.happen e).callFirst else l.happen e).limit = l.limit := by
    intro free
    cases free with
    | true => exact limit_callFirst (l.happen e)
    | false => rfl
  exact hcall _

/-- A call that does not ask goes on without a word to the person. -/
theorem settle_open (fuel : Nat) (h : l.session.Open) (hs : l.session.TurnHeld) :
    (settle j fuel l).session.Open ∧ (settle j fuel l).session.asked = l.session.asked := by
  induction fuel generalizing l with
  | zero => exact ⟨h, rfl⟩
  | succ fuel ih =>
    unfold settle
    split
    · exact ⟨h, rfl⟩
    · rename_i hj
      have hask := h.not_asking hs hj
      cases hask
    · rename_i call d hj
      have hsession := session_nextRun l
      split
      · rename_i answer l' heq
        rw [heq] at hsession
        have hfinish := (hsession ▸ h).after (hsession ▸ hs) (e := .finish j answer) rfl
        have hheld : (l'.session.after (.finish j answer)).TurnHeld :=
          (Leads.after (.finish j answer) .refl).turnHeld (hsession ▸ hs)
        have hopen : (l'.session.after (.finish j answer)).Open := by
          refine hfinish.2.resolve_right ?_
          rintro ⟨call', d', hasking⟩
          -- an action that has been executed is the end of its call
          rw [← hsession] at hj
          obtain ⟨u, q, hp, hafter⟩ :=
            exists_progress_of_step (e := .finish j answer) hj rfl (by simp [step, hj])
          rw [hafter, hp.call?_self hj] at hasking
          cases hp with
          | finish => cases hasking
        obtain ⟨hopen', hasked⟩ := ih (l := l'.advance (.finish j answer))
          (by rwa [session_advance]) (by rwa [session_advance])
        refine ⟨hopen', hasked.trans ?_⟩
        rw [session_advance, hfinish.1, hsession]
      · rename_i turns answer l' _ heq
        rw [heq] at hsession
        exact ⟨hsession ▸ h, congrArg Session.asked hsession⟩
    · exact ⟨h, rfl⟩

/-- A call that has just got the turn shows its first prompt at once. -/
theorem settle_asks (fuel : Nat) (hlimit : l.limit = none)
    (hj : l.session.call? j = some (call, .asking d 1 false)) :
    l.session.AskedSince (settle j (fuel + 1) l).session := by
  have hshown : l.session.AskedSince (l.happen (.show_ j)).session :=
    ⟨_, [], asked_after_show hj, rfl⟩
  refine hshown.leads ?_
  have hpresent : (l.happen (.show_ j)).session.Leads (l.present j).1.session := nextReply_leads .refl
  simp only [settle, hj, hlimit]
  rcases heq : l.present j with ⟨l', turns, ending⟩
  rw [heq] at hpresent
  cases turns with
  | zero =>
    cases he : ending.event j with
    | none =>
      simp only [he]
      exact hpresent
    | some e =>
      simp only [he]
      exact settle_leads (advance_leads hpresent e) j fuel
  | succ turns => exact hpresent

/-- A call that goes on after an event of its own. -/
theorem proceed_opens (h : l.session.Open) (hs : l.session.TurnHeld) (hlimit : l.limit = none)
    (he : e.subject? = some j) : l.session.Opens (l.proceed j e).session := by
  obtain ⟨hasked, hcases⟩ := h.after hs he
  have hlimit' : (l.advance e).limit = none := (limit_advance l e).trans hlimit
  have hheld : (l.session.after e).TurnHeld := (Leads.after e .refl).turnHeld hs
  rcases hcases with hopen | ⟨call, d, hj⟩
  · obtain ⟨hopen', hasked'⟩ := settle_open (j := j) ((l.advance e).replies.length + 4)
      (l := l.advance e) (by rwa [session_advance]) (by rwa [session_advance])
    refine .inl ⟨hopen', hasked'.trans ?_⟩
    rw [session_advance, hasked]
  · refine .inr ?_
    rw [← session_advance] at hj hasked
    exact (settle_asks _ hlimit' hj).of_asked hasked

theorem opens_refl (h : l.session.Open) : l.session.Opens l.session := .inl ⟨h, rfl⟩

/-- The turn of a call. -/
theorem resume_opens {rest : List Job} (hl : l.Orderly none) (h : l.session.Open)
    (hs : l.session.TurnHeld) :
    l.session.Opens (({ l with line := rest } : Loop).resume j).session := by
  have hgo : ∀ {e : Event}, e.subject? = some j →
      l.session.Opens (({ l with line := rest } : Loop).proceed j e).session :=
    fun he => proceed_opens (l := { l with line := rest }) h hs hl.untimed he
  have hleft : ∀ {e : Event}, e.subject? = some j →
      l.session.Opens ((({ l with line := rest } : Loop).leave j).proceed j e).session :=
    fun he => proceed_opens (l := ({ l with line := rest } : Loop).leave j) h hs hl.untimed he
  have hresumes := hl.resumes j rest
  generalize ({ l with line := rest } : Loop).resume j = l' at hresumes ⊢
  cases hresumes with
  | stays | waits => exact opens_refl h
  | begins => exact hgo rfl
  | proceeds _ _ _ he => exact hgo he
  | hears hcall => cases h.not_asking hs hcall
  | takesTurn => exact hleft rfl
  | givesUp _ _ hl' =>
    rw [(ite_callFirst_same _ _).1, ← hl']
    exact hleft rfl
  | leaves _ _ hl' =>
    rw [(ite_callFirst_same _ _).1, ← hl']
    exact opens_refl h

/-- A cancellation brings up nothing that the person is asked. -/
theorem cancel_opens (h : l.session.Open) (hs : l.session.TurnHeld) (j : Nat) :
    l.session.Opens (l.cancel j).session := by
  unfold cancel
  split
  · exact opens_refl h
  · obtain ⟨hasked, hcases⟩ := h.after hs (e := .cancel j) rfl
    refine .inl ⟨hcases.resolve_right ?_, hasked⟩
    rintro ⟨call, d, hj⟩
    rcases l.session.after_subject_cases (e := .cancel j) rfl with hsame | ⟨call', p, u, q, hj', hp, heq⟩
    · rw [hsame] at hj
      cases h.not_asking hs hj
    · have hover := hp.isOver_of_cancel
      rw [heq, hp.call?_self hj'] at hj
      cases hj
      cases hover
  all_goals exact opens_refl h

/-- What a turn does to an open session. -/
theorem turn_opens {job : Job} {rest : List Job} (hl : l.Orderly none) (hline : l.line = job :: rest)
    (h : l.session.Open) (hs : l.session.TurnHeld) :
    l.session.Opens (({ l with line := rest } : Loop).turn job).session := by
  by_cases hcall : ∃ i, job = .call i
  · obtain ⟨i, rfl⟩ := hcall
    exact resume_opens hl h hs
  · rw [not_exists] at hcall
    have hl' := hl.take hline fun i _ heq => absurd heq (hcall i)
    rcases hl'.other_turn_cases hcall with heq | heq | heq | ⟨job', heq⟩ <;> rw [heq]
    · exact opens_refl h
    · exact opens_refl h
    · exact cancel_opens (l := { l with line := rest }) h hs _
    · exact opens_refl h

/-! ## The order of the queue -/

/-- The calls in the queue, in order. -/
def order (l : Loop) : List Nat := l.waiters.map (·.1)

@[simp] theorem order_callFirst (l : Loop) : l.callFirst.order = l.order := by
  unfold callFirst
  split
  · rename_i hwaiters
    simp [order, hwaiters, enqueue, set]
  · rfl

@[simp] theorem order_ite_callFirst (l : Loop) (free : Bool) :
    (if free then l.callFirst else l).order = l.order := by
  cases free with
  | true => exact order_callFirst l
  | false => rfl

@[simp] theorem order_advance (l : Loop) (e : Event) : (l.advance e).order = l.order :=
  order_ite_callFirst (l.happen e) _

@[simp] theorem order_happen (l : Loop) (e : Event) : (l.happen e).order = l.order := by
  simp only [order, happen]

theorem order_interject (l : Loop) (x : Interjection) : (l.interject x).order = l.order := by
  cases x with
  | decide raw => exact order_happen l (.decide raw)
  | withdraw => exact order_happen l .withdraw
  | reload rules => exact order_happen l (.reload rules)

theorem order_interjections (l : Loop) (xs : List Interjection) :
    (xs.foldl interject l).order = l.order := by
  induction xs generalizing l with
  | nil => rfl
  | cons x xs ih => exact (ih (l.interject x)).trans (order_interject l x)

@[simp] theorem order_present (l : Loop) (j : Nat) : (l.present j).1.order = l.order := by
  unfold present nextReply
  split
  · rfl
  · rename_i script rest _
    exact order_interjections { l.happen (.show_ j) with replies := rest } script.before

@[simp] theorem order_nextRun (l : Loop) : l.nextRun.2.order = l.order := by
  unfold nextRun
  split <;> rfl

/-- A call that goes on stands last in the queue, or the queue stays as it is. -/
theorem order_settle (fuel : Nat) (l : Loop) : ∃ more, (settle j fuel l).order = l.order ++ more := by
  induction fuel generalizing l with
  | zero => exact ⟨[], by simp [settle]⟩
  | succ fuel ih =>
    have same : ∀ {l' : Loop}, l'.order = l.order → ∃ more, l'.order = l.order ++ more :=
      fun h => ⟨[], by simp [h]⟩
    -- an event of the call is no matter of the queue, and then it goes on
    have go : ∀ {l' : Loop} (e : Event), l'.order = l.order →
        ∃ more, (settle j fuel (l'.advance e)).order = l.order ++ more := by
      intro l' e h
      obtain ⟨more, hmore⟩ := ih (l'.advance e)
      exact ⟨more, by rw [hmore, order_advance, h]⟩
    unfold settle
    split
    · exact ⟨[j], by simp [order]⟩
    · have hpresent := order_present l j
      split
      · split
        · rename_i l' ending heq
          rw [heq] at hpresent
          split
          · exact go _ hpresent
          · exact same hpresent
        · rename_i l' turns ending _ heq
          rw [heq] at hpresent
          exact same hpresent
      · exact same rfl
      · exact same rfl
    · have hrun := order_nextRun l
      split
      · rename_i answer l' heq
        rw [heq] at hrun
        exact go _ hrun
      · rename_i turns answer l' _ heq
        rw [heq] at hrun
        exact same hrun
    · exact same rfl

theorem order_proceed (l : Loop) (j : Nat) (e : Event) :
    ∃ more, (l.proceed j e).order = l.order ++ more := by
  obtain ⟨more, hmore⟩ := order_settle (j := j) ((l.advance e).replies.length + 4) (l.advance e)
  exact ⟨more, by rw [proceed, hmore, order_advance]⟩

theorem order_leave (l : Loop) (j : Nat) : (l.leave j).order = l.order.filter (· ≠ j) := by
  simp [order, leave, List.filter_map, Function.comp_def]

/-- A cancellation leaves the order as it is. -/
theorem order_cancel (l : Loop) (j : Nat) : (l.cancel j).order = l.order := by
  unfold cancel
  split
  · rfl
  · simp [order, enqueue, set, happen, List.map_map, Function.comp_def]
  all_goals rfl

theorem order_hear (l : Loop) (j : Nat) (ending : ReplyEnding) :
    ∃ more, (l.hear j ending).order = l.order ++ more := by
  unfold hear
  split
  · exact order_proceed l j _
  · exact ⟨[], (List.append_nil _).symm⟩

/-- A call leaves the queue in its turn, if it was called from there, and the others stay in order. -/
theorem Resumes.order (h : Resumes j l l') : ∃ more, l'.order =
    (if (l.thread j).wait.mark? = some true then (l.leave j).order else l.order) ++ more := by
  cases h with
  | stays hwait =>
    rw [if_neg (Wait.mark?_ne_of_isIdle hwait)]
    exact ⟨[], (List.append_nil _).symm⟩
  | begins _ hmark | proceeds _ _ hmark =>
    rw [hmark]
    exact order_proceed l j _
  | hears _ hmark =>
    rw [hmark]
    exact order_hear l j _
  | waits _ hmark =>
    rw [hmark]
    exact ⟨[], (List.append_nil _).symm⟩
  | takesTurn _ hmark =>
    rw [if_pos hmark]
    exact order_proceed (l.leave j) j _
  | givesUp _ hmark hl' =>
    rw [if_pos hmark, order_ite_callFirst, ← hl']
    exact order_proceed (l.leave j) j _
  | leaves _ hmark hl' =>
    rw [if_pos hmark, order_ite_callFirst, ← hl']
    exact ⟨[], (List.append_nil _).symm⟩

theorem order_resume (hl : l.Orderly none) (j : Nat) (rest : List Job) :
    ∃ more, (({ l with line := rest } : Loop).resume j).order =
      (if (l.thread j).wait.mark? = some true then l.order.filter (· ≠ j) else l.order) ++ more := by
  obtain ⟨more, hmore⟩ := (hl.resumes j rest).order
  refine ⟨more, ?_⟩
  rw [hmore, order_leave]
  rfl

/-- Other jobs have nothing to do with the queue. -/
theorem order_turn {job : Job} (hl : l.Orderly none) (hjob : ∀ i, job ≠ .call i) :
    (l.turn job).order = l.order := by
  rcases hl.other_turn_cases hjob with heq | heq | heq | ⟨job', heq⟩ <;> rw [heq]
  · rfl
  · exact order_cancel l _
  · rfl

/-! ## Until the person is asked -/

/-- Call `i` waits for the turn to ask, and it could be taken. -/
structure Waits (i : Nat) (call : Call) (d : Decision) (l : Loop) : Prop where
  serves : l.Serves
  opened : l.session.Open
  queued : l.session.call? i = some (call, .queued d)

/-- The waiting of call `i` has come to its end: the person was asked, with a first prompt, or the call was
cancelled. -/
def Resolved (i : Nat) (call : Call) (s t : Session) : Prop :=
  s.AskedSince t ∨ t.call? i = some (call, .failed .cancelled)

theorem Serves.turnHeld (h : Serves l) : l.session.TurnHeld := by
  obtain ⟨config, rules, hleads⟩ := h.leads
  exact hleads.turnHeld (turnHeld_init config rules)

theorem runFor_of_line {job : Job} {rest : List Job} (hline : l.line = job :: rest) (turns : Nat) :
    runFor (turns + 1) l = runFor turns (({ l with line := rest } : Loop).turn job) := by
  simp only [Loop.runFor, hline]

theorem Serves.turn {job : Job} {rest : List Job} (h : Serves l) (hline : l.line = job :: rest) :
    (({ l with line := rest } : Loop).turn job).Serves := by
  have hone := h.runFor 1
  rwa [runFor_of_line hline] at hone

/-- A call that waits is in the queue. -/
theorem Waits.mem_order (h : Waits i call d l) : i ∈ l.order := by
  have hplace := h.serves.orderly.place h.queued
  have hmark : ∃ b, (l.thread i).wait.mark? = some b := by
    generalize (l.thread i).wait = w at hplace
    cases hplace with
    | inQueue => exact ⟨false, rfl⟩
    | called => exact ⟨true, rfl⟩
    | ended hp => cases hp
  obtain ⟨b, hb⟩ := hmark
  exact List.mem_map.mpr ⟨(i, b), h.serves.orderly.mem_waiters hb, rfl⟩

/-- The turn of a call that was called from the queue is the end of its waiting. -/
theorem Waits.called_turn {rest : List Job} (h : Waits i call d l)
    (hmark : (l.thread i).wait.mark? = some true) :
    Resolved i call l.session (({ l with line := rest } : Loop).turn (.call i)).session := by
  have hl := h.serves.orderly
  have hplace := hl.place h.queued
  rcases hthread : l.thread i with ⟨w, struck⟩
  rw [hthread] at hplace hmark
  cases hplace with
  | inQueue => cases hmark
  | ended hp => cases hp
  | called =>
    cases struck with
    | true =>
      -- a call that was cancelled meanwhile ends as cancelled
      have hdoomed : (l.thread i).isDoomed = true := by rw [hthread]; rfl
      refine .inr ?_
      rw [Loop.turn, session_resume_of_isDoomed (l := { l with line := rest }) hdoomed h.queued rfl]
      exact cancelled_of_queued h.queued
    | false =>
      have hthread' : ({ l with line := rest } : Loop).thread i = ⟨.called, false⟩ := hthread
      -- else it takes the turn, which nobody has, and asks from the first prompt on
      refine .inl ?_
      rw [Loop.turn]
      unfold resume
      rw [hthread']
      dsimp only
      rw [if_neg Bool.false_ne_true]
      generalize hleft : ({ l with line := rest } : Loop).leave i = l'
      have hsession : l'.session = l.session := by rw [← hleft]; rfl
      have hlimit : (l'.advance (.takeTurn i)).limit = none := by
        rw [limit_advance, ← hleft]
        exact hl.untimed
      have hasks : (l'.advance (.takeTurn i)).session.call? i = some (call, .asking d 1 false) := by
        rw [session_advance, hsession]
        exact h.opened.takeTurn h.serves.inLine h.queued
      refine (settle_asks _ hlimit hasks).of_asked ?_
      rw [session_advance, hsession]
      exact (h.opened.after h.serves.turnHeld rfl).1

/-- A turn that is about the call itself ends its waiting, or is nothing to it. -/
theorem Waits.own_turn {job : Job} {rest : List Job} (h : Waits i call d l) (hline : l.line = job :: rest)
    (hi : subject job = i) :
    Resolved i call l.session (({ l with line := rest } : Loop).turn job).session ∨
      (({ l with line := rest } : Loop).turn job).session = l.session := by
  have hl := h.serves.orderly
  by_cases hcall : ∃ k, job = .call k
  · obtain ⟨j, rfl⟩ := hcall
    obtain rfl : j = i := hi
    by_cases hmark : (l.thread j).wait.mark? = some true
    · exact .inl (h.called_turn hmark)
    · -- a call that waits has no other turn than that of one who was called
      have hqueued := h.queued
      refine .inr ?_
      have hresumes := hl.resumes j rest
      rw [Loop.turn]
      generalize ({ l with line := rest } : Loop).resume j = l' at hresumes ⊢
      cases hresumes with
      | stays => rfl
      | waits => rfl
      | takesTurn _ hmark' | givesUp _ hmark' | leaves _ hmark' => exact absurd hmark' hmark
      | begins hcall =>
        cases hqueued.symm.trans hcall
      | proceeds hcall hp =>
        cases hqueued.symm.trans hcall
        cases hp
      | hears hcall => cases hqueued.symm.trans hcall
  · rw [not_exists] at hcall
    have hl' := hl.take hline fun i _ heq => absurd heq (hcall i)
    rcases hl'.other_turn_cases hcall with heq | heq | heq | ⟨job', heq⟩ <;> rw [heq]
    · exact .inr rfl
    · exact .inr rfl
    · rw [hi]
      unfold Loop.cancel
      split
      · exact .inr rfl
      · exact .inl (.inr (cancelled_of_queued h.queued))
      all_goals exact .inr rfl
    · exact .inr rfl

/-- Whoever's turn it is, the call waits on, or its waiting has come to its end. -/
theorem Waits.turn {job : Job} {rest : List Job} (h : Waits i call d l) (hline : l.line = job :: rest) :
    Resolved i call l.session (({ l with line := rest } : Loop).turn job).session ∨
      (Waits i call d (({ l with line := rest } : Loop).turn job) ∧
        (({ l with line := rest } : Loop).turn job).session.asked = l.session.asked) := by
  have hl := h.serves.orderly
  have hserves := h.serves.turn hline
  rcases turn_opens hl hline h.opened h.serves.turnHeld with ⟨hopen, hasked⟩ | hfirst
  · by_cases hi : subject job = i
    · rcases h.own_turn hline hi with hend | hsame
      · exact .inl hend
      · exact .inr ⟨⟨hserves, hopen, by rw [hsame]; exact h.queued⟩, hasked⟩
    · have hbeside := (turn_settles hl hline).2 i (Ne.symm hi)
      exact .inr ⟨⟨hserves, hopen, hbeside.call.trans h.queued⟩, hasked⟩
  · exact .inl (.inl hfirst)

theorem Resolved.of_asked {s s' t : Session} (h : Resolved i call s' t) (hasked : s'.asked = s.asked) :
    Resolved i call s t :=
  h.imp (·.of_asked hasked) id

/-- The place of a call in the queue does not get worse when others leave or join behind it. -/
theorem idxOf_filter_append_le {ks more : List Nat} {P : Nat → Bool} (hi : i ∈ ks) (hP : P i = true) :
    (ks.filter P ++ more).idxOf i ≤ ks.idxOf i := by
  rw [List.idxOf_append_of_mem (List.mem_filter.mpr ⟨hi, hP⟩)]
  induction ks with
  | nil => cases hi
  | cons k ks ih =>
    by_cases hk : k = i
    · subst hk
      simp [List.filter_cons_of_pos hP]
    · have hmem : i ∈ ks := (List.mem_cons.mp hi).resolve_left (Ne.symm hk)
      rw [List.idxOf_cons_ne _ hk]
      by_cases hPk : P k = true
      · rw [List.filter_cons_of_pos hPk, List.idxOf_cons_ne _ hk]
        exact Nat.succ_le_succ (ih hmem)
      · rw [List.filter_cons_of_neg hPk]
        exact Nat.le_succ_of_le (ih hmem)

/-- The first of the queue has been called, and stands in the line. -/
theorem Waits.first_called {ks : List Nat} (h : Waits i call d l) (hfirst : l.order = j :: ks) :
    (l.thread j).wait.mark? = some true ∧ .call j ∈ l.line := by
  obtain ⟨k, rest, hwaiters, hmem⟩ := h.serves.handed_over h.opened.free h.queued
  have horder : l.order = k :: rest.map (·.1) := by rw [order, hwaiters]; rfl
  obtain ⟨rfl, -⟩ := List.cons.inj (horder.symm.trans hfirst)
  exact ⟨h.serves.orderly.waiting (hwaiters ▸ List.mem_cons_self), hmem⟩

/-- A turn of another than the first of the queue leaves the first one there, and nobody who waits on falls
back. -/
theorem Waits.other_turn {job : Job} {rest : List Job} {ks : List Nat} (h : Waits i call d l)
    (hline : l.line = job :: rest) (hfirst : l.order = j :: ks) (hjob : job ≠ .call j)
    (hon : ¬ Resolved i call l.session (({ l with line := rest } : Loop).turn job).session) :
    ∃ ks', (({ l with line := rest } : Loop).turn job).order = j :: ks' ∧
      (({ l with line := rest } : Loop).turn job).order.idxOf i ≤ l.order.idxOf i := by
  have hl := h.serves.orderly
  -- a turn takes some out of the queue, but neither of the two, and adds others at its end
  obtain ⟨P, more, hi, hj, horder⟩ : ∃ P more, P i = true ∧ P j = true ∧
      (({ l with line := rest } : Loop).turn job).order = l.order.filter P ++ more := by
    have same : l.order.filter (fun _ => true) = l.order := List.filter_true _
    by_cases hcall : ∃ k, job = .call k
    · obtain ⟨k, rfl⟩ := hcall
      obtain ⟨more, hmore⟩ := order_resume hl k rest
      by_cases hmark : (l.thread k).wait.mark? = some true
      · have hki : i ≠ k := by
          rintro rfl
          exact hon (h.called_turn hmark)
        have hkj : j ≠ k := by
          rintro rfl
          exact hjob rfl
        rw [if_pos hmark] at hmore
        exact ⟨_, more, by simpa using hki, by simpa using hkj, hmore⟩
      · rw [if_neg hmark] at hmore
        exact ⟨fun _ => true, more, rfl, rfl, by rw [same]; exact hmore⟩
    · have htaken : ({ l with line := rest } : Loop).Orderly none :=
        hl.take hline fun k _ heq => absurd ⟨k, heq⟩ hcall
      refine ⟨fun _ => true, [], rfl, rfl, ?_⟩
      rw [same, List.append_nil]
      exact order_turn htaken fun k heq => hcall ⟨k, heq⟩
  refine ⟨ks.filter P ++ more, ?_, ?_⟩
  · rw [horder, hfirst, List.filter_cons_of_pos hj, List.cons_append]
  · rw [horder]
    exact idxOf_filter_append_le h.mem_order hi

/-- When the first of the queue has had its turn, the waiting has come to its end, or the call has moved up in
the queue. -/
theorem Waits.first_turn {pre post : List Job} {ks : List Nat} (h : Waits i call d l)
    (hfirst : l.order = j :: ks) (hline : l.line = pre ++ .call j :: post) (hpre : .call j ∉ pre) :
    ∃ turns, Resolved i call l.session (runFor turns l).session ∨
      (Waits i call d (runFor turns l) ∧ (runFor turns l).session.asked = l.session.asked ∧
        (runFor turns l).order.idxOf i < l.order.idxOf i) := by
  -- on the jobs that stand before the first of the queue in the line; the queue keeps its first meanwhile
  induction pre generalizing l post ks with
  | nil =>
    obtain ⟨hmark, -⟩ := h.first_called hfirst
    refine ⟨1, ?_⟩
    rw [runFor_of_line hline 0]
    rcases h.turn hline with hend | ⟨hwaits, hasked⟩
    · exact .inl hend
    · by_cases hij : i = j
      · subst hij
        exact .inl (h.called_turn hmark)
      · -- the first has left the queue, and those behind it move up
        refine .inr ⟨hwaits, hasked, ?_⟩
        obtain ⟨more, hmore⟩ := order_resume h.serves.orderly j post
        rw [if_pos hmark, hfirst, List.filter_cons_of_neg (by simp)] at hmore
        have hmem : i ∈ ks := by
          have horder := h.mem_order
          rw [hfirst, List.mem_cons] at horder
          exact horder.resolve_left hij
        have horder : (({ l with line := post } : Loop).turn (.call j)).order.idxOf i ≤ ks.idxOf i := by
          rw [Loop.turn, hmore]
          exact idxOf_filter_append_le hmem (by simpa using hij)
        rw [hfirst, List.idxOf_cons_ne _ (Ne.symm hij)]
        exact Nat.lt_succ_of_le horder
  | cons job pre ih =>
    rw [List.mem_cons, not_or] at hpre
    by_cases hend : Resolved i call l.session
        (({ l with line := pre ++ .call j :: post } : Loop).turn job).session
    · exact ⟨1, .inl (by rw [runFor_of_line hline 0]; exact hend)⟩
    · obtain ⟨hwaits, hasked⟩ := (h.turn hline).resolve_left hend
      obtain ⟨ks', hfirst', hle⟩ := h.other_turn hline hfirst (Ne.symm hpre.1) hend
      obtain ⟨more, hmore⟩ :=
        ((turn_settles h.serves.orderly hline).2 (subject job + 1) (by omega)).line
      have hline' : (({ l with line := pre ++ .call j :: post } : Loop).turn job).line
          = pre ++ .call j :: (post ++ more) := by simpa using hmore
      obtain ⟨turns, hturns⟩ := ih hwaits hfirst' hline' hpre.2
      refine ⟨turns + 1, ?_⟩
      rw [runFor_of_line hline]
      rcases hturns with hend' | ⟨hwaits', hasked', hlt⟩
      · exact .inl (hend'.of_asked hasked)
      · exact .inr ⟨hwaits', hasked'.trans hasked, Nat.lt_of_lt_of_le hlt hle⟩

theorem runFor_add (m n : Nat) (l : Loop) : runFor (m + n) l = runFor n (runFor m l) := by
  induction m generalizing l with
  | zero => rw [Nat.zero_add]; rfl
  | succ m ih =>
    rw [Nat.succ_add, Loop.runFor, Loop.runFor]
    split
    · exact ih _
    · rename_i hline
      split
      · exact ih _
      · rename_i htime
        -- nothing is left to do, and so it stays
        cases n with
        | zero => rfl
        | succ n => simp only [Loop.runFor, hline, htime]

/-- Whoever waits for the turn to ask in an open session is not left waiting: the person is asked again, with a
first prompt, or the call is cancelled. -/
theorem Waits.resolved (h : Waits i call d l) :
    ∃ turns, Resolved i call l.session (runFor turns l).session := by
  generalize hplace : l.order.idxOf i = place
  induction place using Nat.strongRecOn generalizing l with
  | ind place ih =>
    obtain ⟨j, ks, hfirst⟩ := List.exists_cons_of_ne_nil (List.ne_nil_of_mem h.mem_order)
    obtain ⟨pre, post, hline, hpre⟩ := List.eq_append_cons_of_mem (h.first_called hfirst).2
    obtain ⟨turns, hturns⟩ := h.first_turn hfirst hline hpre
    rcases hturns with hend | ⟨hwaits, hasked, hlt⟩
    · exact ⟨turns, hend⟩
    · obtain ⟨more, hmore⟩ := ih _ (hplace ▸ hlt) hwaits rfl
      exact ⟨turns + more, by rw [runFor_add]; exact hmore.of_asked hasked⟩

end Loop
end PolicyGate
