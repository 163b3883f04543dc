import PolicyGate.Proofs.Consent.Latch
import PolicyGate.Proofs.Consent.Schedule

/-!
# What does not depend on the schedule

Which call asks is a matter of the schedule. What is decided is not, because the answers belong to the
prompts by number and whoever asks first asks until something is decided. So the decision can be computed
without a session: it is the first answer that is understood, or a no when all attempts are used up
(`Scenario.poll`). And with the decision, what becomes of each call can be computed from the call alone
(`Scenario.ending`).

`Scenario.OnCourse` says that a session is on its way to these ends. It speaks of the calls one by one: a
call that waits or asks is one that has to, the prompts shown are those of the call that asks, and a call
that has done with asking stands where its end is in sight. Every step of every schedule keeps this
(`Scenario.OnCourse.step`), so two schedules that leave nothing to do arrive at the same ends
(`Scenario.schedule_independent`).
-/

namespace PolicyGate
namespace Scenario

open Session

variable (w : Scenario)

/-! ## The ends -/

/-- What comes of asking if so many prompts may still be shown and `asked` have been: the decision, and the
number of prompts when it is made. What each answer decides, if anything, is given. -/
def poll (heard : Nat → Option ConsentMode) : (left asked : Nat) → ConsentMode × Nat
  | 0, asked => (.deny, asked)
  | left + 1, asked =>
    match heard asked with
    | some mode => (mode, asked + 1)
    | none => poll heard left (asked + 1)

/-- What an answer decides. -/
def heard (w : Scenario) (n : Nat) : Option ConsentMode := Reply.mode? (w.replies n)

/-- What comes of asking in this session: whoever asks first has all attempts. -/
def settlement (w : Scenario) : ConsentMode × Nat := poll w.heard w.config.attempts 0

/-- Where a call comes to its end that has done with asking. -/
def completed (w : Scenario) (call : Call) : Phase → Phase
  | .running d => .done (.executed d (w.execute call.action call.args))
  | p => p

/-- The end of a call. -/
def ending (w : Scenario) (call : Call) : Phase :=
  match w.start.verdictOn call with
  | .error x => .failed (.undecidable x)
  | .ok d =>
    if !w.start.isStateChanging call.action then w.completed call (.running d)
    else if d.verdict = .deny then .done (.blocked call d .policyDeny)
    else if w.consent.askedOnce then w.completed call (.following w.consent.mode call d)
    else if !w.config.canAsk then .done (.blocked call d .consentRequired)
    else w.completed call (.following w.settlement.1 call d)

/-- The call has to ask, unless another one does so first. -/
structure MustAsk (w : Scenario) (call : Call) (d : Decision) : Prop where
  seeks : w.start.Seeks call d
  undecided : w.consent.askedOnce = false
  canAsk : w.config.canAsk = true

section Ends

variable {w : Scenario} {call : Call} {d : Decision}

theorem ending_of_seeks (h : w.start.Seeks call d) :
    w.ending call =
      if w.consent.askedOnce then w.completed call (.following w.consent.mode call d)
      else if !w.config.canAsk then .done (.blocked call d .consentRequired)
      else w.completed call (.following w.settlement.1 call d) := by
  rw [ending, h.decided]
  simp [h.changes, h.undenied]

theorem MustAsk.ending (h : w.MustAsk call d) :
    w.ending call = w.completed call (.following w.settlement.1 call d) := by
  rw [ending_of_seeks h.seeks]
  simp [h.undecided, h.canAsk]

@[simp] theorem completed_done (res : GateResult) : w.completed call (.done res) = .done res := rfl

@[simp] theorem completed_failed (f : CallFailure) : w.completed call (.failed f) = .failed f := rfl

theorem exists_completed_following (w : Scenario) (mode : ConsentMode) (call : Call) (d : Decision) :
    ∃ res, w.completed call (.following mode call d) = .done res := by
  cases mode <;> exact ⟨_, rfl⟩

/-- The end of a call is an outcome, unless the rules cannot decide on it. -/
theorem ending_cases (w : Scenario) (call : Call) :
    (∃ res, w.ending call = .done res) ∨
      ∃ x, w.start.verdictOn call = .error x ∧ w.ending call = .failed (.undecidable x) := by
  unfold ending
  cases hv : w.start.verdictOn call with
  | error x => exact .inr ⟨x, rfl, rfl⟩
  | ok d =>
    refine .inl ?_
    dsimp only
    split
    · exact ⟨_, rfl⟩
    · split
      · exact ⟨_, rfl⟩
      · split
        · exact w.exists_completed_following ..
        · split
          · exact ⟨_, rfl⟩
          · exact w.exists_completed_following ..

end Ends

/-! ## On course -/

/-- What may be said of a call in a session on its way, by the phase in which it stands. -/
def Stands (w : Scenario) (s : Session) (call : Call) : Phase → Prop
  | .ready => True
  | .queued d => w.MustAsk call d
  | .asking d attempt shown =>
    w.MustAsk call d ∧ s.consent.askedOnce = false ∧ 1 ≤ attempt ∧ attempt ≤ w.config.attempts ∧
      s.asked.length = (if shown then attempt else attempt - 1) ∧
      poll w.heard (w.config.attempts + 1 - attempt) (attempt - 1) = w.settlement
  | p => w.completed call p = w.ending call ∧ ∀ d, w.MustAsk call d → s.consent.askedOnce = true

/-- Nothing has been settled yet: the consent is as it was, and prompts are those of a call that asks. -/
def Unsettled (w : Scenario) (s : Session) : Prop :=
  s.consent = w.consent ∧ (s.holder = none → s.asked = [])

/-- Some call had to ask, and the asking is over. -/
def Settled (w : Scenario) (s : Session) : Prop :=
  (∃ call ∈ w.calls, ∃ d, w.MustAsk call d) ∧ s.consent = ⟨w.settlement.1, true⟩ ∧
    s.asked.length = w.settlement.2

/-- The session is on its way to the ends. -/
structure OnCourse (w : Scenario) (s : Session) : Prop where
  config : s.config = w.config
  rules : s.rules = w.rules
  calls : ∀ i, (s.call? i).map (·.1) = w.calls[i]?
  turn : s.TurnHeld
  settled : w.Unsettled s ∨ w.Settled s
  stands : ∀ {i call p}, s.call? i = some (call, p) → w.Stands s call p

section Step

variable {w : Scenario} {s u : Session} {i j : Nat} {call : Call} {d : Decision} {p q : Phase}

theorem stands_of_isPast (hp : p.isPast = true) :
    w.Stands s call p ↔
      w.completed call p = w.ending call ∧ ∀ d, w.MustAsk call d → s.consent.askedOnce = true := by
  cases p with
  | running _ | done _ | failed _ => rfl
  | ready | queued _ | asking _ _ _ => cases hp

theorem OnCourse.mem_calls (h : w.OnCourse s) (hi : s.call? i = some (call, p)) : call ∈ w.calls := by
  have hcall := h.calls i
  rw [hi] at hcall
  exact List.mem_of_getElem? hcall.symm

/-- On its way, a session judges the calls as it did in the beginning. -/
theorem OnCourse.verdictOn_eq (h : w.OnCourse s) (call : Call) :
    w.start.verdictOn call = s.verdictOn call :=
  verdictOn_congr (t := w.start) h.rules.symm call

theorem OnCourse.isStateChanging_eq (h : w.OnCourse s) (action : String) :
    w.start.isStateChanging action = s.isStateChanging action :=
  isStateChanging_congr (t := w.start) h.rules.symm h.config.symm action

theorem OnCourse.seeks_iff (h : w.OnCourse s) : s.Seeks call d ↔ w.start.Seeks call d :=
  seeks_congr h.rules h.config call d

theorem OnCourse.unsettled (h : w.OnCourse s) (ha : s.consent.askedOnce = false) :
    w.Unsettled s := by
  rcases h.settled with hs | ⟨-, hc, -⟩
  · exact hs
  · rw [hc] at ha
    cases ha

/-- A call that needs consent while nothing is decided has to ask. -/
theorem OnCourse.mustAsk (h : w.OnCourse s) (hd : s.Seeks call d)
    (ha : s.consent.askedOnce = false) (hk : s.config.canAsk = true) : w.MustAsk call d := by
  refine ⟨h.seeks_iff.mp hd, ?_, h.config ▸ hk⟩
  rw [← (h.unsettled ha).1]
  exact ha

/-- Whoever follows the decision of a session on its way comes to its own end. -/
theorem OnCourse.stands_following (h : w.OnCourse s) (hd : w.start.Seeks call d)
    (ha : s.consent.askedOnce = true) :
    w.Stands s call (.following s.consent.mode call d) := by
  rw [stands_of_isPast (Phase.isPast_following ..)]
  refine ⟨?_, fun _ _ => ha⟩
  rw [ending_of_seeks hd]
  -- the decision was there from the beginning, or it is the one that asking comes to
  rcases h.settled with ⟨hc, -⟩ | ⟨⟨_, -, _, hm⟩, hc, -⟩
  · rw [← hc, ha, if_pos rfl]
  · rw [hm.undecided, hm.canAsk, hc]
    rfl

theorem poll_of_mode? {left asked : Nat} {mode : ConsentMode}
    (h : w.heard asked = some mode) : poll w.heard (left + 1) asked = (mode, asked + 1) := by
  rw [poll, h]

theorem poll_of_none {left asked : Nat} (h : w.heard asked = none) :
    poll w.heard (left + 1) asked = poll w.heard left (asked + 1) := by
  rw [poll, h]

/-- A call that gets the turn to ask has all attempts before it. -/
theorem OnCourse.stands_first (h : w.OnCourse s) (hm : w.MustAsk call d)
    (ha : s.consent.askedOnce = false) (hh : s.holder = none) (hc : u.consent = s.consent)
    (hasked : u.asked = s.asked) (hhold : u.holder = some i) :
    (w.Unsettled u ∨ w.Settled u) ∧ w.Stands u call (.asking d 1 false) := by
  obtain ⟨hsame, hnone⟩ := h.unsettled ha
  refine ⟨.inl ⟨hc.trans hsame, fun hu => ?_⟩, hm, by rw [hc, ha], Nat.le_refl 1,
    w.config.one_le_attempts, ?_, rfl⟩
  · rw [hhold] at hu
    cases hu
  · rw [hasked, hnone hh]
    rfl

/-- A reply that ends the asking settles the session as foreseen. -/
theorem settled_of_poll {mode : ConsentMode} (hi : call ∈ w.calls) (hm : w.MustAsk call d)
    (hset : w.settlement = (mode, s.asked.length)) (hc : u.consent = ⟨mode, true⟩)
    (hasked : u.asked = s.asked) :
    (w.Unsettled u ∨ w.Settled u) ∧ w.Stands u call (.following mode call d) := by
  rw [← hasked] at hset
  refine ⟨.inr ⟨⟨call, hi, d, hm⟩, by rw [hset, hc], by rw [hset]⟩, ?_⟩
  rw [stands_of_isPast (Phase.isPast_following ..)]
  refine ⟨?_, fun _ _ => by rw [hc]⟩
  rw [hm.ending, hset]

/-- What the answer to a pending prompt decides, by the number of the attempt. -/
theorem heard_of_next? {attempt : Nat} {raw : Option String}
    (hlen : s.asked.length = if true then attempt else attempt - 1)
    (hn : w.next? i s.asked.length call (.asking d attempt true) = some (.reply i raw)) :
    w.heard (attempt - 1) = Reply.mode? raw := by
  rw [if_pos rfl] at hlen
  rw [hlen] at hn
  cases hn
  rfl

section Answer

variable {attempt : Nat} {raw : Option String} (h : w.Stands s call (.asking d attempt true))
  (hn : w.next? i s.asked.length call (.asking d attempt true) = some (.reply i raw))

include h hn

/-- An answer that is understood is what the asking comes to. -/
theorem settlement_of_mode? {mode : ConsentMode} (hmode : Reply.mode? raw = some mode) :
    w.settlement = (mode, s.asked.length) := by
  obtain ⟨-, -, hone, hatt, hlen, hpoll⟩ := h
  have hheard := (heard_of_next? hlen hn).trans hmode
  rw [← hpoll, Nat.succ_sub hatt, poll_of_mode? hheard, Nat.sub_add_cancel hone, hlen, if_pos rfl]

/-- If the last answer is not understood either, the asking comes to a no. -/
theorem settlement_of_last (hmode : Reply.mode? raw = none) (hl : w.config.attempts ≤ attempt) :
    w.settlement = (.deny, s.asked.length) := by
  obtain ⟨-, -, hone, hatt, hlen, hpoll⟩ := h
  have hheard := (heard_of_next? hlen hn).trans hmode
  obtain rfl : attempt = w.config.attempts := Nat.le_antisymm hatt hl
  rw [← hpoll, Nat.succ_sub hatt, poll_of_none hheard, Nat.sub_add_cancel hone, Nat.sub_self, poll,
    hlen, if_pos rfl]

/-- After an answer that is not understood, what the asking comes to is left to the other attempts. -/
theorem stands_retry (hmode : Reply.mode? raw = none) (hl : attempt < w.config.attempts) :
    w.Stands s call (.asking d (attempt + 1) false) := by
  obtain ⟨hm, ha, hone, hatt, hlen, hpoll⟩ := h
  have hheard := (heard_of_next? hlen hn).trans hmode
  refine ⟨hm, ha, Nat.succ_pos _, hl, hlen, ?_⟩
  rw [← hpoll, Nat.succ_sub hatt, poll_of_none hheard, Nat.sub_add_cancel hone,
    Nat.add_sub_add_right, Nat.add_sub_cancel]

end Answer

/-! ### The step of the call itself, phase by phase -/

/-- A call that begins. -/
theorem OnCourse.step_ready (h : w.OnCourse s) (hp : Progress s i call (.begin i) .ready u q) :
    (w.Unsettled u ∨ w.Settled u) ∧ w.Stands u call q := by
  cases hp with
  -- in the first three cases nobody's consent is needed, so the call is not one that has to ask
  | @undecidable x he =>
    have hv : w.start.verdictOn call = .error x := (h.verdictOn_eq call).trans he
    refine ⟨h.settled, by rw [completed_failed, ending, hv], fun d hm => ?_⟩
    rw [hm.seeks.decided] at hv
    cases hv
  | @harmless d he hc =>
    have hv : w.start.verdictOn call = .ok d := (h.verdictOn_eq call).trans he
    have hch : w.start.isStateChanging call.action = false := (h.isStateChanging_eq _).trans hc
    refine ⟨h.settled, by simp [ending, hv, hch], fun d hm => ?_⟩
    rw [hm.seeks.changes] at hch
    cases hch
  | @denied d he hc hd =>
    have hv : w.start.verdictOn call = .ok d := (h.verdictOn_eq call).trans he
    have hch : w.start.isStateChanging call.action = true := (h.isStateChanging_eq _).trans hc
    refine ⟨h.settled, by simp [ending, hv, hch, hd], fun d' hm => ?_⟩
    have hv' := hm.seeks.decided
    rw [hv] at hv'
    cases hv'
    exact absurd hd hm.seeks.undenied
  | late hd ha => exact ⟨h.settled, h.stands_following (h.seeks_iff.mp hd) ha⟩
  | alone hd ha hk =>
    have hsame := (h.unsettled ha).1
    have hk' : w.config.canAsk = false := h.config ▸ hk
    refine ⟨h.settled, ?_, fun d hm => ?_⟩
    · rw [ending_of_seeks (h.seeks_iff.mp hd), ← hsame, ha, hk']
      rfl
    · rw [hm.canAsk] at hk'
      cases hk'
  | enter hd ha hk hh => exact h.stands_first (h.mustAsk hd ha hk) ha hh rfl rfl rfl
  | line hd ha hk => exact ⟨h.settled, h.mustAsk hd ha hk⟩

/-- A call that gets its turn. -/
theorem OnCourse.step_queued (h : w.OnCourse s) (hm : w.MustAsk call d)
    (hp : Progress s i call (.takeTurn i) (.queued d) u q) :
    (w.Unsettled u ∨ w.Settled u) ∧ w.Stands u call q := by
  cases hp with
  | pass hh _ ha =>
    refine ⟨?_, h.stands_following hm.seeks ha⟩
    rcases h.settled with ⟨hc, hnone⟩ | hset
    · exact .inl ⟨hc, fun _ => hnone hh⟩
    · exact .inr hset
  | takeTurn hh _ ha => exact h.stands_first hm ha hh rfl rfl rfl

/-- A call that shows its prompt. -/
theorem OnCourse.step_show {attempt : Nat} (h : w.OnCourse s) (hhold : s.holder = some i)
    (hstand : w.Stands s call (.asking d attempt false))
    (hp : Progress s i call (.show_ i) (.asking d attempt false) u q) :
    (w.Unsettled u ∨ w.Settled u) ∧ w.Stands u call q := by
  cases hp with
  | show_ =>
    obtain ⟨hm, ha, hone, hatt, hlen, hpoll⟩ := hstand
    refine ⟨.inl ⟨(h.unsettled ha).1, fun hnone => ?_⟩, hm, ha, hone, hatt, ?_, hpoll⟩
    · rw [hhold] at hnone
      cases hnone
    · simp only [Bool.false_eq_true, if_false] at hlen
      simp only [if_true, List.length_append, List.length_singleton]
      omega
  | decline hg => cases hg
  | collide hg => rcases hg with hg | hg <;> cases hg

/-- A call whose prompt is answered. -/
theorem OnCourse.step_reply {attempt : Nat} {raw : Option String} (h : w.OnCourse s)
    (hmem : call ∈ w.calls) (hstand : w.Stands s call (.asking d attempt true))
    (hn : w.next? i s.asked.length call (.asking d attempt true) = some (.reply i raw))
    (hp : Progress s i call (.reply i raw) (.asking d attempt true) u q) :
    (w.Unsettled u ∨ w.Settled u) ∧ w.Stands u call q := by
  have ha : s.consent.askedOnce = false := hstand.2.1
  cases hp with
  | settle hmode =>
    exact settled_of_poll hmem hstand.1 (settlement_of_mode? hstand hn hmode) rfl rfl
  | retry hu hl =>
    have hmode := hu.resolve_left (by simp [ha])
    exact ⟨h.settled, stands_retry hstand hn hmode (h.config ▸ hl)⟩
  | decline hg =>
    cases hg with
    | lastReply _ hu hl =>
      have hmode := hu.resolve_left (by simp [ha])
      exact settled_of_poll hmem hstand.1 (settlement_of_last hstand hn hmode (h.config ▸ hl)) rfl rfl
  | collide _ hasked =>
    -- nobody decides from outside
    rw [ha] at hasked
    cases hasked

/-- It stands as it should, and what is settled is settled as foreseen. -/
theorem OnCourse.step_self (h : w.OnCourse s) (hi : s.call? i = some (call, p))
    (hstep : w.Steps s i call p u q) :
    (w.Unsettled u ∨ w.Settled u) ∧ w.Stands u call q := by
  -- what the call does next is determined by where it stands
  obtain ⟨e, hn, hp⟩ := hstep
  have hstand := h.stands hi
  cases p with
  | ready =>
    cases hn
    exact h.step_ready hp
  | queued d =>
    cases hn
    exact h.step_queued hstand hp
  | asking d attempt shown =>
    cases shown with
    | false =>
      cases hn
      exact h.step_show ((h.turn i).mpr ⟨call, _, hi, rfl⟩) hstand hp
    | true =>
      have he : e = .reply i (w.replies (s.asked.length - 1)) := (Option.some.inj hn).symm
      subst he
      exact h.step_reply (h.mem_calls hi) hstand hn hp
  | running d =>
    cases hn
    cases hp with
    | finish => exact ⟨h.settled, hstand⟩
  | done _ | failed _ => cases hn

/-- The step for the other calls: what they may count on stays. -/
theorem OnCourse.step_other {callj : Call} {pj : Phase} (h : w.OnCourse s)
    (hi : s.call? i = some (call, p)) (hstep : w.Steps s i call p u q) (hji : j ≠ i)
    (hj : s.call? j = some (callj, pj)) : w.Stands u callj pj := by
  obtain ⟨e, -, hp⟩ := hstep
  have hstand := h.stands hj
  -- what is decided stays
  have hdecided : s.consent.askedOnce = true → u.consent.askedOnce = true := by
    intro ha
    rcases hp.consent with hc | ⟨hfresh, -⟩
    · rw [hc, ha]
    · rw [ha] at hfresh
      cases hfresh
  cases pj with
  | ready => trivial
  | queued d => exact hstand
  | asking d attempt shown =>
    -- the other call has the turn, so this one shows nothing and decides nothing
    have hhold : s.holder = some j := (h.turn j).mpr ⟨callj, _, hj, rfl⟩
    have hnot : p.isAsking = false := h.turn.not_asking hi (by simpa [hhold] using hji)
    have hc : u.consent = s.consent := by
      rcases hp.turn with ⟨-, -, hc⟩ | ⟨hfree, -⟩ | ⟨hask, -⟩
      · exact hc
      · rw [hhold] at hfree
        cases hfree
      · rw [hnot] at hask
        cases hask
    obtain ⟨hm, ha, hrest⟩ := hstand
    rw [← hp.asked_of_not_asking hnot] at hrest
    exact ⟨hm, by rw [hc, ha], hrest⟩
  | running _ | done _ | failed _ => exact ⟨hstand.1, fun d hm => hdecided (hstand.2 d hm)⟩

theorem stands_land {callj : Call} : w.Stands (u.land i call q) callj p ↔ w.Stands u callj p := by
  cases p <;> simp only [Stands, land_consent, land_asked]

/-- Every step of a schedule stays on course. -/
theorem OnCourse.step (h : w.OnCourse s) (hi : s.call? i = some (call, p))
    (hstep : w.Steps s i call p u q) : w.OnCourse (u.land i call q) := by
  obtain ⟨hsettled, hself⟩ := h.step_self hi hstep
  obtain ⟨e, -, hp⟩ := id hstep
  refine ⟨?_, ?_, ?_, turnHeld_progress h.turn hi hp, ?_, ?_⟩
  · rw [land_config, hp.config, h.config]
  · rw [land_rules, hp.rules, h.rules]
  · exact fun j => (hp.call?_fst hi j).trans (h.calls j)
  · simpa only [Unsettled, Settled, land_consent, land_holder, land_asked] using hsettled
  · intro j callj pj hj
    by_cases hji : j = i
    · subst hji
      rw [hp.call?_self hi] at hj
      cases hj
      exact stands_land.mpr hself
    · rw [hp.call?_ne hji] at hj
      exact stands_land.mpr (h.step_other hi hstep hji hj)

end Step

/-! ## Every schedule -/

theorem onCourse_start : w.OnCourse w.start where
  config := rfl
  rules := rfl
  calls := w.call?_serve []
  turn := w.turnHeld_start
  settled := .inl ⟨rfl, fun _ => rfl⟩
  stands hi := by
    rw [w.call?_start hi]
    trivial

/-- The run: every schedule stays on course. -/
theorem onCourse_serve (schedule : List Nat) : w.OnCourse (w.serve w.start schedule) :=
  w.serve_keeps w.onCourse_start (fun h hi hstep => h.step hi hstep) schedule

section Over

variable {w : Scenario} {s t : Session} {i : Nat} {call : Call} {p : Phase}

/-- A call that is over has come to its end. -/
theorem OnCourse.eq_ending (h : w.OnCourse s) (hi : s.call? i = some (call, p))
    (hp : p.isOver = true) : p = w.ending call := by
  have hstand := h.stands hi
  cases p with
  | done _ | failed _ => exact hstand.1
  | ready | queued _ | asking _ _ _ | running _ => cases hp

/-- When all calls are over, the asking is settled exactly if some call had to ask. -/
theorem OnCourse.settled_of_over (h : w.OnCourse s) (hover : s.Over)
    (hm : ∃ call ∈ w.calls, ∃ d, w.MustAsk call d) : w.Settled s := by
  refine h.settled.resolve_left fun hun => ?_
  obtain ⟨call, hmem, d, hm⟩ := hm
  obtain ⟨i, hi⟩ := List.getElem?_of_mem hmem
  rw [← h.calls i] at hi
  obtain ⟨⟨_, p⟩, hcall, rfl⟩ := Option.map_eq_some_iff.mp hi
  -- a call that had to ask is over only because something is decided
  have hp := hover i _ p hcall
  have hstand := h.stands hcall
  have hdec : s.consent.askedOnce = true := by
    cases p with
    | done _ | failed _ => exact hstand.2 d hm
    | ready | queued _ | asking _ _ _ | running _ => cases hp
  rw [hun.1, hm.undecided] at hdec
  cases hdec

theorem OnCourse.unsettled_of_over (h : w.OnCourse s) (hover : s.Over)
    (hm : ¬ ∃ call ∈ w.calls, ∃ d, w.MustAsk call d) : s.consent = w.consent ∧ s.asked = [] := by
  obtain ⟨hc, hnone⟩ := h.settled.resolve_right fun hs => hm hs.1
  refine ⟨hc, hnone ?_⟩
  cases hh : s.holder with
  | none => rfl
  | some i =>
    obtain ⟨call, p, hi, hask⟩ := (h.turn i).mp hh
    have hp := hover i call p hi
    cases p with
    | asking _ _ _ => cases hp
    | ready | queued _ | running _ | done _ | failed _ => cases hask

/-- Two sessions of one scenario that have nothing left to do agree. -/
theorem OnCourse.agree (hs : w.OnCourse s) (ht : w.OnCourse t) (hsover : s.Over)
    (htover : t.Over) :
    (∀ i, s.call? i = t.call? i) ∧ s.consent = t.consent ∧ s.asked.length = t.asked.length := by
  constructor
  · intro i
    have hcall := (hs.calls i).trans (ht.calls i).symm
    cases hi : s.call? i with
    | none =>
      rw [hi] at hcall
      exact (Option.map_eq_none_iff.mp hcall.symm).symm
    | some x =>
      obtain ⟨call, p⟩ := x
      rw [hi] at hcall
      obtain ⟨⟨call', p'⟩, hi', rfl⟩ := Option.map_eq_some_iff.mp hcall.symm
      rw [hi', hs.eq_ending hi (hsover i _ p hi), ht.eq_ending hi' (htover i _ p' hi')]
  · -- either somebody has to ask, and then all is settled, or nobody does, and nothing is
    by_cases hm : ∃ call ∈ w.calls, ∃ d, w.MustAsk call d
    · obtain ⟨-, hc, hlen⟩ := hs.settled_of_over hsover hm
      obtain ⟨-, hc', hlen'⟩ := ht.settled_of_over htover hm
      exact ⟨hc.trans hc'.symm, hlen.trans hlen'.symm⟩
    · obtain ⟨hc, hnil⟩ := hs.unsettled_of_over hsover hm
      obtain ⟨hc', hnil'⟩ := ht.unsettled_of_over htover hm
      exact ⟨hc.trans hc'.symm, by rw [hnil, hnil']⟩

end Over

/-- On the sequential schedule the calls follow each other: none begins before those ahead of it in the list
are over. Any schedule without idle steps comes to an end, and when no call can go on then all are over. Then
every call has an outcome, unless the rules cannot decide on it; and where the calls stand, the consent and
the number of prompts are the same as on the sequential schedule. -/
theorem schedule_independent (w : Scenario) :
    (∀ k ≤ w.calls.length, ∀ i call p,
      (w.serve w.start (w.oneByOne k)).call? i = some (call, p) →
        if i < k then p.isOver = true else p = .ready) ∧
    (∀ schedule, w.Busy w.start schedule →
      schedule.length ≤ w.calls.length * (2 * w.config.attempts + 3)) ∧
    ∀ schedule, w.Rests (w.serve w.start schedule) →
      (w.serve w.start schedule).Over ∧
      (∀ i call p, (w.serve w.start schedule).call? i = some (call, p) →
        (∃ res, p = .done res) ∨
          ∃ x, w.start.verdictOn call = .error x ∧ p = .failed (.undecidable x)) ∧
      (∀ i, (w.serve w.start schedule).call? i
        = (w.serve w.start (w.oneByOne w.calls.length)).call? i) ∧
      (w.serve w.start schedule).consent
        = (w.serve w.start (w.oneByOne w.calls.length)).consent ∧
      (w.serve w.start schedule).asked.length
        = (w.serve w.start (w.oneByOne w.calls.length)).asked.length := by
  refine ⟨fun k => w.serve_oneByOne, fun schedule hbusy => ?_, fun schedule hrests => ?_⟩
  · have hlen := w.busy_length_le hbusy
    rw [w.potential_start] at hlen
    exact Nat.le_of_add_right_le hlen
  · have hover := w.over_of_rests (w.turnHeld_serve _) (w.inLine_serve _) hrests
    have hcourse := w.onCourse_serve schedule
    refine ⟨hover, fun i call p hi => ?_, hcourse.agree (w.onCourse_serve _) hover ?_⟩
    · rw [hcourse.eq_ending hi (hover i call p hi)]
      exact w.ending_cases call
    · -- the sequential schedule leaves nothing to do either
      intro i call p hi
      have hp := w.serve_oneByOne (Nat.le_refl _) i call p hi
      have hlt : i < w.calls.length := by
        have hcall := w.call?_serve (w.oneByOne w.calls.length) i
        rw [hi] at hcall
        exact (List.getElem?_eq_some_iff.mp hcall.symm).1
      rwa [if_pos hlt] at hp

/-- Two calls, and a person who is understood only at the second prompt. -/
def mumbled : Scenario where
  config := {}
  rules := {}
  calls := [{ action := "azure.create" }, { action := "azure.purge" }]
  replies n := ["maybe", "yes"][n]?
  execute _ _ := .ok .null

/-- Call 1 begins while call 0 asks, waits for its turn and is over first. All the same both end as if one had
followed the other, and nobody is asked more often. -/
theorem mumbled_interleaved :
    let interleaved := [0, 1, 0, 0, 0, 0, 1, 1, 0]
    mumbled.Busy mumbled.start interleaved ∧ interleaved.length ≤ 18 ∧
      mumbled.Rests (mumbled.serve mumbled.start interleaved) ∧
      (∀ i, (mumbled.serve mumbled.start interleaved).call? i
        = (mumbled.serve mumbled.start (mumbled.oneByOne 2)).call? i) ∧
      (mumbled.serve mumbled.start (mumbled.oneByOne 2)).consent = ⟨.execute, true⟩ ∧
      (mumbled.serve mumbled.start (mumbled.oneByOne 2)).asked.length = 2 := by
  intro interleaved
  obtain ⟨-, hlength, hsame⟩ := schedule_independent mumbled
  have hbusy : mumbled.Busy mumbled.start interleaved := by
    refine ⟨?_, ?_, ?_, ?_, ?_, ?_, ?_, ?_, ?_, trivial⟩ <;>
      exact fun h => absurd (congrArg Session.potential h) (by decide +kernel)
  have hall : (mumbled.serve mumbled.start interleaved).calls.all (·.2.isOver) = true := by
    decide +kernel
  have hrests : mumbled.Rests (mumbled.serve mumbled.start interleaved) :=
    mumbled.rests_of_over fun i call p hi =>
      List.all_eq_true.mp hall (call, p) (List.mem_of_getElem? hi)
  have hconsent : (mumbled.serve mumbled.start interleaved).consent = ⟨.execute, true⟩ := by
    decide +kernel
  have hasked : (mumbled.serve mumbled.start interleaved).asked.length = 2 := by decide +kernel
  obtain ⟨-, -, hcalls, hconsent', hasked'⟩ := hsame interleaved hrests
  exact ⟨hbusy, hlength interleaved hbusy, hrests, hcalls, hconsent'.symm.trans hconsent,
    hasked'.symm.trans hasked⟩

end Scenario
end PolicyGate
