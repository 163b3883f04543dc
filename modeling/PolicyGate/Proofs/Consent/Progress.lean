import PolicyGate.Consent.Session

/-!
# What one event does to a session

`Session.step` decides what an event does by running the calls' own code. The proofs about runs need the
opposite reading: given that an event had an effect, what was the situation, and what is different now?

`Progress` is that reading for the events of one call. It lists every way in which a call gets from one
phase to another, with the conditions under which it does, and with the session `u` that is left apart
from the call: who has the turn, who waits, what was decided, which prompt was shown. The rest is the same
for all of them and is said once, by `Session.land`: the call stands in its new phase, an outcome is on the
audit log, an action that is executed is on the list of those.

`after_cases` adds the events that belong to no call. Every invariant of a session is proved from it, and
nothing after this module unfolds `Session.step`.
-/

namespace PolicyGate

/-- Every call may ask at least once. -/
theorem GateConfig.one_le_attempts (c : GateConfig) : 1 ≤ c.attempts := Nat.le_max_left _ _

/-! ## Whose event it is -/

/-- The call that an event belongs to. New calls, new rules and a person on their own belong to none. -/
def Event.subject? : Event → Option Nat
  | .begin i | .takeTurn i | .show_ i | .reply i _ | .timeOut i | .promptFails i _ | .finish i _
  | .cancel i => some i
  | .arrive _ | .decide _ | .withdraw | .reload _ => none

/-- What a person decides on their own by an event, outside of any prompt. -/
def Event.decision? : Event → Option ConsentMode
  | .decide raw => Reply.mode? raw
  | .withdraw => some .deny
  | _ => none

theorem decision?_decide (raw : Option String) : (Event.decide raw).decision? = Reply.mode? raw := rfl

theorem decision?_eq_none_of_subject? {e : Event} {i : Nat} (h : e.subject? = some i) :
    e.decision? = none := by
  cases e <;> simp [Event.subject?, Event.decision?] at h ⊢

/-- A reply that is understood expresses a decision. -/
theorem isDecided_of_mode? {raw : Option String} {mode : ConsentMode}
    (h : Reply.mode? raw = some mode) : mode.isDecided = true := by
  unfold Reply.mode? at h
  have hm : mode ∈ [ConsentMode.execute, .simulate, .deny] := List.mem_of_find?_eq_some h
  simp only [List.mem_cons, List.not_mem_nil, or_false] at hm
  rcases hm with rfl | rfl | rfl <;> rfl

theorem isDecided_of_decision? {e : Event} {mode : ConsentMode} (h : e.decision? = some mode) :
    mode.isDecided = true := by
  cases e with
  | decide raw =>
    rw [decision?_decide] at h
    exact isDecided_of_mode? h
  | withdraw =>
    obtain rfl : ConsentMode.deny = mode := Option.some.inj h
    rfl
  | _ => simp [Event.decision?] at h

/-! ## Landing in a phase -/

/-- Where a call goes that follows a decision. -/
def Phase.following (mode : ConsentMode) (call : Call) (d : Decision) : Phase :=
  match mode with
  | .execute => .running d
  | .simulate => .done (.simulated call d)
  | .deny | .undecided => .done (.blocked call d .consentDeclined)

namespace Phase

variable {mode : ConsentMode} {call : Call} {d d' : Decision} {res : GateResult}

/-- Whoever follows a decision and executes, does so because that is the decision. -/
theorem following_eq_running (h : following mode call d = .running d') :
    mode = .execute ∧ d = d' := by
  cases mode with
  | execute => exact ⟨rfl, Phase.running.inj h⟩
  | simulate | deny | undecided => cases h

/-- Whoever follows a decision and is over at once was simulated or blocked as declined. -/
theorem following_eq_done (h : following mode call d = .done res) :
    (mode = .simulate ∧ res = .simulated call d) ∨
      ((mode = .deny ∨ mode = .undecided) ∧ res = .blocked call d .consentDeclined) := by
  cases mode with
  | execute => cases h
  | simulate => exact .inl ⟨rfl, (Phase.done.inj h).symm⟩
  | deny => exact .inr ⟨.inl rfl, (Phase.done.inj h).symm⟩
  | undecided => exact .inr ⟨.inr rfl, (Phase.done.inj h).symm⟩

/-- Nothing is left for the call to ask: its action is being executed, or it is over. -/
def isPast : Phase → Bool
  | .running _ | .done _ | .failed _ => true
  | .ready | .queued _ | .asking _ _ _ => false

@[simp] theorem isPast_following (mode : ConsentMode) (call : Call) (d : Decision) :
    (following mode call d).isPast = true := by
  cases mode <;> rfl

theorem following_ne_asking (mode : ConsentMode) (call : Call) (d d' : Decision) (attempt : Nat)
    (shown : Bool) : following mode call d ≠ .asking d' attempt shown := by
  cases mode <;> simp [following]

theorem following_ne_failed (mode : ConsentMode) (call : Call) (d : Decision) (f : CallFailure) :
    following mode call d ≠ .failed f := by
  cases mode <;> simp [following]

end Phase

namespace Session

/-- The session in which a call has come to a phase. An outcome is put on the audit log, and an action
that is executed on the list of those. -/
def land (s : Session) (i : Nat) (call : Call) (p : Phase) : Session :=
  match p with
  | .done r => s.conclude i call r
  | .running d => s.run i call d
  | p => s.move i call p

section Land

variable (s : Session) (i : Nat) (call : Call) (p : Phase)

@[simp] theorem land_config : (s.land i call p).config = s.config := by cases p <;> rfl
@[simp] theorem land_rules : (s.land i call p).rules = s.rules := by cases p <;> rfl
@[simp] theorem land_consent : (s.land i call p).consent = s.consent := by cases p <;> rfl
@[simp] theorem land_queue : (s.land i call p).queue = s.queue := by cases p <;> rfl
@[simp] theorem land_holder : (s.land i call p).holder = s.holder := by cases p <;> rfl
@[simp] theorem land_asked : (s.land i call p).asked = s.asked := by cases p <;> rfl
@[simp] theorem land_calls : (s.land i call p).calls = s.calls.set i (call, p) := by cases p <;> rfl

/-- Only a call whose action is executed adds to the executed actions. -/
theorem land_ran : (s.land i call p).ran = s.ran ∨
    ∃ d, p = .running d ∧ (s.land i call p).ran = s.ran ++ [(call.action, call.args)] := by
  cases p with
  | running d => exact .inr ⟨d, rfl, rfl⟩
  | _ => exact .inl rfl

end Land

theorem land_running_ran (s : Session) (i : Nat) (call : Call) (d : Decision) :
    (s.land i call (.running d)).ran = s.ran ++ [(call.action, call.args)] := rfl

/-- Only the call that lands is touched. -/
theorem call?_land_ne {s : Session} {i j : Nat} (h : j ≠ i) (call : Call) (p : Phase) :
    (s.land i call p).call? j = s.call? j := by
  simp [call?, List.getElem?_set_ne (Ne.symm h)]

theorem call?_land_self {s : Session} {i : Nat} {x : Call × Phase} (h : s.call? i = some x)
    (call : Call) (p : Phase) : (s.land i call p).call? i = some (call, p) := by
  obtain ⟨hlt, -⟩ := List.getElem?_eq_some_iff.mp h
  simp [call?, List.getElem?_set_self hlt]

theorem follow_eq_land (s : Session) (i : Nat) (call : Call) (d : Decision) :
    s.follow i call d = s.land i call (.following s.consent.mode call d) := by
  cases hm : s.consent.mode <;> simp [follow, Phase.following, land, hm]

/-! ## Decisions that are recorded, and those that are not -/

theorem record_fresh {s : Session} (mode : ConsentMode) (hm : mode.isDecided = true)
    (ha : s.consent.askedOnce = false) :
    s.record mode = .ok { s with consent := ⟨mode, true⟩ } := by
  simp [record, ConsentState.record, hm, ha, Except.map]

theorem record_asked {s : Session} (mode : ConsentMode) (hm : mode.isDecided = true)
    (ha : s.consent.askedOnce = true) :
    s.record mode = .error (.alreadyRecorded s.consent.mode) := by
  simp [record, ConsentState.record, hm, ha, Except.map]

/-- A reply decides nothing: it is not understood, or it comes too late. -/
def Unheard (s : Session) (raw : Option String) : Prop :=
  s.consent.askedOnce = true ∨ Reply.mode? raw = none

theorem hear_unheard {s : Session} {raw : Option String} (h : s.Unheard raw) :
    s.hear raw = (s, none) := by
  unfold hear
  cases hm : Reply.mode? raw with
  | none => rfl
  | some mode =>
    rcases h with ha | hn
    · simp only [record_asked mode (isDecided_of_mode? hm) ha]
    · rw [hm] at hn; cases hn

theorem hear_decides {s : Session} {raw : Option String} {mode : ConsentMode}
    (hm : Reply.mode? raw = some mode) (ha : s.consent.askedOnce = false) :
    s.hear raw = ({ s with consent := ⟨mode, true⟩ }, some mode) := by
  unfold hear
  simp only [hm, record_fresh mode (isDecided_of_mode? hm) ha]

/-- Either a reply decides nothing, or it is understood and nothing was decided before. -/
theorem unheard_or (s : Session) (raw : Option String) :
    s.Unheard raw ∨ ∃ mode, Reply.mode? raw = some mode ∧ s.consent.askedOnce = false := by
  cases ha : s.consent.askedOnce with
  | true => exact .inl (.inl ha)
  | false =>
    cases hm : Reply.mode? raw with
    | none => exact .inl (.inr hm)
    | some mode => exact .inr ⟨mode, rfl, rfl⟩

end Session

/-! ## Every way in which a call progresses -/

namespace Session

/-- What the rules say about a call. -/
def verdictOn (s : Session) (call : Call) : Except RenderError Decision :=
  s.rules.evaluate call.action call.args call.context

/-- The call needs a person's consent: its action changes state, and the rules do not deny it. -/
structure Seeks (s : Session) (call : Call) (d : Decision) : Prop where
  decided : s.verdictOn call = .ok d
  changes : s.isStateChanging call.action = true
  undenied : d.verdict ≠ .deny

/-- What the rules say about a call hangs on the rules alone. -/
theorem verdictOn_congr {s t : Session} (hr : t.rules = s.rules) (call : Call) :
    t.verdictOn call = s.verdictOn call := by
  rw [verdictOn, verdictOn, hr]

theorem isStateChanging_congr {s t : Session} (hr : t.rules = s.rules) (hc : t.config = s.config)
    (action : String) : t.isStateChanging action = s.isStateChanging action := by
  rw [isStateChanging, isStateChanging, hr, hc]

theorem seeks_congr {s t : Session} (hr : t.rules = s.rules) (hc : t.config = s.config) (call : Call)
    (d : Decision) : t.Seeks call d ↔ s.Seeks call d := by
  have hv := verdictOn_congr hr call
  have hch := isStateChanging_congr hr hc call.action
  exact ⟨fun h => ⟨hv ▸ h.decided, hch ▸ h.changes, h.undenied⟩,
    fun h => ⟨hv ▸ h.decided, hch ▸ h.changes, h.undenied⟩⟩

/-- The asking of a call ends without an answer and counts as a no: the time is up, or the last attempt
decided nothing. -/
inductive GivesUp (s : Session) (i attempt : Nat) (shown : Bool) : Event → Prop
  | timeOut : GivesUp s i attempt shown (.timeOut i)
  | lastReply {raw} (hs : shown = true) (hu : s.Unheard raw) (hl : s.config.attempts ≤ attempt) :
      GivesUp s i attempt shown (.reply i raw)

/-- `Progress s i call e p u q`: event `e` takes the call from phase `p` to phase `q`, and apart from the
call the session becomes `u`. -/
inductive Progress (s : Session) (i : Nat) (call : Call) : Event → Phase → Session → Phase → Prop
  | undecidable {x} (he : s.verdictOn call = .error x) :
      Progress s i call (.begin i) .ready s (.failed (.undecidable x))
  | harmless {d} (he : s.verdictOn call = .ok d) (hc : s.isStateChanging call.action = false) :
      Progress s i call (.begin i) .ready s (.running d)
  | denied {d} (he : s.verdictOn call = .ok d) (hc : s.isStateChanging call.action = true)
      (hd : d.verdict = .deny) :
      Progress s i call (.begin i) .ready s (.done (.blocked call d .policyDeny))
  | late {d} (hs : s.Seeks call d) (ha : s.consent.askedOnce = true) :
      Progress s i call (.begin i) .ready s (.following s.consent.mode call d)
  | alone {d} (hs : s.Seeks call d) (ha : s.consent.askedOnce = false)
      (hk : s.config.canAsk = false) :
      Progress s i call (.begin i) .ready s (.done (.blocked call d .consentRequired))
  | enter {d} (hs : s.Seeks call d) (ha : s.consent.askedOnce = false)
      (hk : s.config.canAsk = true) (hh : s.holder = none) (hq : s.queue = []) :
      Progress s i call (.begin i) .ready { s with holder := some i } (.asking d 1 false)
  | line {d} (hs : s.Seeks call d) (ha : s.consent.askedOnce = false)
      (hk : s.config.canAsk = true) (hw : s.holder ≠ none ∨ s.queue ≠ []) :
      Progress s i call (.begin i) .ready { s with queue := s.queue ++ [i] } (.queued d)
  | pass {d} (hh : s.holder = none) (hq : i ∈ s.queue) (ha : s.consent.askedOnce = true) :
      Progress s i call (.takeTurn i) (.queued d) { s with queue := s.queue.erase i, holder := none }
        (.following s.consent.mode call d)
  | takeTurn {d} (hh : s.holder = none) (hq : i ∈ s.queue) (ha : s.consent.askedOnce = false) :
      Progress s i call (.takeTurn i) (.queued d)
        { s with queue := s.queue.erase i, holder := some i } (.asking d 1 false)
  | show_ {d attempt} :
      Progress s i call (.show_ i) (.asking d attempt false)
        { s with asked := s.asked ++ [⟨call.action, call.args, d, attempt⟩] } (.asking d attempt true)
  | settle {d attempt raw mode} (hm : Reply.mode? raw = some mode)
      (ha : s.consent.askedOnce = false) :
      Progress s i call (.reply i raw) (.asking d attempt true)
        { s with consent := ⟨mode, true⟩, holder := none } (.following mode call d)
  | retry {d attempt raw} (hu : s.Unheard raw) (hl : attempt < s.config.attempts) :
      Progress s i call (.reply i raw) (.asking d attempt true) s (.asking d (attempt + 1) false)
  | decline {d attempt shown e} (hg : s.GivesUp i attempt shown e)
      (ha : s.consent.askedOnce = false) :
      Progress s i call e (.asking d attempt shown)
        { s with consent := ⟨.deny, true⟩, holder := none } (.following .deny call d)
  | abandon {d attempt shown} (ha : s.consent.askedOnce = false) :
      Progress s i call (.cancel i) (.asking d attempt shown)
        { s with consent := ⟨.deny, true⟩, holder := none } (.failed .cancelled)
  | collide {d attempt shown e} (hg : s.GivesUp i attempt shown e ∨ e = .cancel i)
      (ha : s.consent.askedOnce = true) :
      Progress s i call e (.asking d attempt shown) { s with holder := none }
        (.failed (.consent (.alreadyRecorded s.consent.mode)))
  | promptFails {d attempt message} :
      Progress s i call (.promptFails i message) (.asking d attempt true) { s with holder := none }
        (.failed (.prompter message))
  | finish {d answer} :
      Progress s i call (.finish i answer) (.running d) s (.done (.executed d answer))
  | cancelReady : Progress s i call (.cancel i) .ready s (.failed .cancelled)
  | cancelQueued {d} :
      Progress s i call (.cancel i) (.queued d) { s with queue := s.queue.erase i }
        (.failed .cancelled)
  | cancelRunning {d} : Progress s i call (.cancel i) (.running d) s (.failed .cancelled)

/-- What an event does that has an effect. -/
inductive Change (s : Session) : Event → Session → Prop
  | call {i call e p u q} (hi : s.call? i = some (call, p)) (hp : Progress s i call e p u q) :
      Change s e (u.land i call q)
  | arrive (call) : Change s (.arrive call) { s with calls := s.calls ++ [(call, .ready)] }
  | speak {e mode} (hd : e.decision? = some mode) (ha : s.consent.askedOnce = false) :
      Change s e { s with consent := ⟨mode, true⟩ }
  | reload (rules) : Change s (.reload rules) { s with rules }

/-! ### One lemma for each function that a step is made of -/

variable {s : Session} {i : Nat} {call : Call} {d : Decision}

theorem start_eq_land (s : Session) (i : Nat) (call : Call) :
    ∃ u q, Progress s i call (.begin i) .ready u q ∧ s.start i call = u.land i call q := by
  unfold start
  split
  · rename_i x he
    exact ⟨_, _, .undecidable he, rfl⟩
  · rename_i d he
    by_cases hc : s.isStateChanging call.action = true
    · rw [if_neg (by simp [hc])]
      by_cases hd : d.verdict = .deny
      · rw [if_pos hd]
        exact ⟨_, _, .denied he hc hd, rfl⟩
      · have hs : s.Seeks call d := ⟨he, hc, hd⟩
        rw [if_neg hd]
        cases ha : s.consent.askedOnce with
        | true =>
          rw [if_pos rfl]
          exact ⟨_, _, .late hs ha, follow_eq_land ..⟩
        | false =>
          rw [if_neg (by simp)]
          cases hk : s.config.canAsk with
          | false =>
            rw [if_pos (by rfl)]
            exact ⟨_, _, .alone hs ha hk, rfl⟩
          | true =>
            rw [if_neg (by simp)]
            split
            · rename_i hw
              obtain ⟨hh, hq⟩ : s.holder = none ∧ s.queue = [] := by simpa using hw
              refine ⟨_, _, .enter hs ha hk hh hq, ?_⟩
              simp only [enter, ha]
              rfl
            · rename_i hw
              -- somebody asks already, or was earlier in the queue
              have hw' : s.holder ≠ none ∨ s.queue ≠ [] := by
                by_cases hh : s.holder = none
                · exact .inr fun hq => hw (by simp [hh, hq])
                · exact .inl hh
              exact ⟨_, _, .line hs ha hk hw', rfl⟩
    · rw [if_pos (by simpa using hc)]
      exact ⟨_, _, .harmless he (by simpa using hc), rfl⟩

/-- A call that gets its turn asks, unless a decision was made while it waited. -/
theorem enter_eq_land (call : Call) (d : Decision) (hh : s.holder = none) (hq : i ∈ s.queue) :
    ∃ u q, Progress s i call (.takeTurn i) (.queued d) u q ∧
      { s with queue := s.queue.erase i }.enter i call d = u.land i call q := by
  unfold enter
  cases ha : s.consent.askedOnce with
  | true =>
    rw [if_pos rfl]
    exact ⟨_, _, .pass hh hq ha, follow_eq_land ..⟩
  | false =>
    rw [if_neg (by simp)]
    exact ⟨_, _, .takeTurn hh hq ha, rfl⟩

theorem decline_fresh (i : Nat) (call : Call) (d : Decision) (ha : s.consent.askedOnce = false) :
    s.decline i call d =
      { s with consent := ⟨.deny, true⟩, holder := none }.land i call (.following .deny call d) := by
  simp only [decline, record_fresh .deny rfl ha]
  exact follow_eq_land ..

theorem decline_asked (i : Nat) (call : Call) (d : Decision) (ha : s.consent.askedOnce = true) :
    s.decline i call d = { s with holder := none }.land i call
      (.failed (.consent (.alreadyRecorded s.consent.mode))) := by
  simp only [decline, record_asked .deny rfl ha]
  rfl

theorem abandon_fresh (i : Nat) (call : Call) (ha : s.consent.askedOnce = false) :
    s.abandon i call =
      { s with consent := ⟨.deny, true⟩, holder := none }.land i call (.failed .cancelled) := by
  simp only [abandon, record_fresh .deny rfl ha]
  rfl

theorem abandon_asked (i : Nat) (call : Call) (ha : s.consent.askedOnce = true) :
    s.abandon i call = { s with holder := none }.land i call
      (.failed (.consent (.alreadyRecorded s.consent.mode))) := by
  simp only [abandon, record_asked .deny rfl ha]
  rfl

theorem decline_eq_land {attempt : Nat} {shown : Bool} {e : Event} (call : Call) (d : Decision)
    (hg : s.GivesUp i attempt shown e) :
    ∃ u q, Progress s i call e (.asking d attempt shown) u q ∧
      s.decline i call d = u.land i call q := by
  cases ha : s.consent.askedOnce with
  | true => exact ⟨_, _, .collide (.inl hg) ha, decline_asked i call d ha⟩
  | false => exact ⟨_, _, .decline hg ha, decline_fresh i call d ha⟩

theorem abandon_eq_land (s : Session) (i : Nat) (call : Call) (d : Decision) (attempt : Nat)
    (shown : Bool) :
    ∃ u q, Progress s i call (.cancel i) (.asking d attempt shown) u q ∧
      s.abandon i call = u.land i call q := by
  cases ha : s.consent.askedOnce with
  | true => exact ⟨_, _, .collide (.inr rfl) ha, abandon_asked i call ha⟩
  | false => exact ⟨_, _, .abandon ha, abandon_fresh i call ha⟩

/-- The last attempt that decides nothing is the end of the asking. -/
theorem answer_last {attempt : Nat} {raw : Option String} (call : Call) (d : Decision)
    (hu : s.Unheard raw) (hl : s.config.attempts ≤ attempt) :
    s.answer i call d attempt raw = s.decline i call d := by
  simp only [answer, hear_unheard hu]
  rw [if_neg (by simp), if_neg (Nat.not_lt_of_le hl)]

theorem answer_eq_land (s : Session) (i : Nat) (call : Call) (d : Decision) (attempt : Nat)
    (raw : Option String) :
    ∃ u q, Progress s i call (.reply i raw) (.asking d attempt true) u q ∧
      s.answer i call d attempt raw = u.land i call q := by
  rcases s.unheard_or raw with hu | ⟨mode, hm, ha⟩
  · -- the reply decides nothing: there is another attempt, or this was the last one
    rcases Nat.lt_or_ge attempt s.config.attempts with hl | hl
    · refine ⟨_, _, .retry hu hl, ?_⟩
      simp only [answer, hear_unheard hu]
      rw [if_neg (by simp), if_pos hl]
      rfl
    · rw [answer_last call d hu hl]
      exact decline_eq_land call d (.lastReply rfl hu hl)
  · simp only [answer, hear_decides hm ha]
    rw [if_pos (by simp)]
    exact ⟨_, _, .settle hm ha, follow_eq_land ..⟩

/-! ### Events that fit -/

theorem step_begin (hi : s.call? i = some (call, .ready)) :
    s.step (.begin i) = some (s.start i call) := by
  simp only [step, hi]

theorem step_givesUp {attempt : Nat} {shown : Bool} {e : Event}
    (hi : s.call? i = some (call, .asking d attempt shown)) (hg : s.GivesUp i attempt shown e) :
    s.step e = some (s.decline i call d) := by
  cases hg with
  | timeOut => simp only [step, hi]
  | lastReply hs hu hl =>
    subst hs
    simp only [step, hi, answer_last call d hu hl]

theorem step_cancel_asking {attempt : Nat} {shown : Bool}
    (hi : s.call? i = some (call, .asking d attempt shown)) :
    s.step (.cancel i) = some (s.abandon i call) := by
  simp only [step, hi]

/-- A call that lands by progress is an effect of the event. -/
theorem Change.of_land {e : Event} {p : Phase} {t : Session} (hi : s.call? i = some (call, p))
    (h : ∃ u q, Progress s i call e p u q ∧ t = u.land i call q) : Change s e t := by
  obtain ⟨u, q, hp, rfl⟩ := h
  exact .call hi hp

/-- An event of a call that fits takes the call further. -/
theorem change_of_subject {e : Event} {t : Session} (he : e.subject? = some i)
    (h : s.step e = some t) : Change s e t := by
  cases e with
  | begin j =>
    simp only [step] at h
    split at h
    · rename_i call hi
      obtain rfl := Option.some.inj h
      exact .of_land hi (start_eq_land s j call)
    · cases h
  | takeTurn j =>
    simp only [step] at h
    split at h
    · rename_i call d hi
      split at h
      · rename_i hw
        obtain ⟨hh, hq⟩ : s.holder = none ∧ j ∈ s.queue := by simpa using hw
        obtain rfl := Option.some.inj h
        exact .of_land hi (enter_eq_land call d hh hq)
      · cases h
    · cases h
  | show_ j =>
    simp only [step] at h
    split at h
    · rename_i call d attempt hi
      obtain rfl := Option.some.inj h
      exact .call hi .show_
    · cases h
  | reply j raw =>
    simp only [step] at h
    split at h
    · rename_i call d attempt hi
      obtain rfl := Option.some.inj h
      exact .of_land hi (answer_eq_land s j call d attempt raw)
    · cases h
  | timeOut j =>
    simp only [step] at h
    split at h
    · rename_i call d attempt shown hi
      obtain rfl := Option.some.inj h
      have hg : s.GivesUp j attempt shown (.timeOut j) := .timeOut
      exact .of_land hi (decline_eq_land call d hg)
    · cases h
  | promptFails j message =>
    simp only [step] at h
    split at h
    · rename_i call d attempt hi
      obtain rfl := Option.some.inj h
      exact .call hi .promptFails
    · cases h
  | finish j answer =>
    simp only [step] at h
    split at h
    · rename_i call d hi
      obtain rfl := Option.some.inj h
      exact .call hi .finish
    · cases h
  | cancel j =>
    simp only [step] at h
    split at h
    · rename_i call hi
      obtain rfl := Option.some.inj h
      exact .call hi .cancelReady
    · rename_i call d hi
      obtain rfl := Option.some.inj h
      exact .call hi .cancelQueued
    · rename_i call d attempt shown hi
      obtain rfl := Option.some.inj h
      exact .of_land hi (abandon_eq_land s j call d attempt shown)
    · rename_i call d hi
      obtain rfl := Option.some.inj h
      exact .call hi .cancelRunning
    · cases h
  | arrive _ | decide _ | withdraw | reload _ => cases he

/-- What a person decides on their own is recorded if it is the first decision, and else has no effect. -/
theorem step_decide (s : Session) (raw : Option String) :
    ∃ t, s.step (.decide raw) = some t ∧ (Change s (.decide raw) t ∨
      t = s ∧ ((Event.decide raw).decision?.isSome → s.consent.askedOnce = true)) := by
  refine ⟨_, rfl, ?_⟩
  rcases s.unheard_or raw with hu | ⟨mode, hm, ha⟩
  · rw [hear_unheard hu]
    refine .inr ⟨rfl, fun hd => hu.resolve_right fun hn => ?_⟩
    simp [decision?_decide, hn] at hd
  · rw [hear_decides hm ha]
    exact .inl (.speak hm ha)

theorem step_withdraw (s : Session) :
    ∃ t, s.step .withdraw = some t ∧ (Change s .withdraw t ∨
      t = s ∧ (Event.withdraw.decision?.isSome → s.consent.askedOnce = true)) := by
  cases ha : s.consent.askedOnce with
  | true =>
    refine ⟨s, ?_, .inr ⟨rfl, fun _ => rfl⟩⟩
    simp only [step, record_asked .deny rfl ha]
  | false =>
    refine ⟨{ s with consent := ⟨.deny, true⟩ }, ?_, .inl (.speak rfl ha)⟩
    simp only [step, record_fresh .deny rfl ha]

/-- Whatever an event makes of a session is one of the listed effects, or nothing at all. What a person does
on their own has no effect only if nothing is left to decide. -/
theorem after_cases (s : Session) (e : Event) :
    Change s e (s.after e) ∨
      s.after e = s ∧ (e.decision?.isSome → s.consent.askedOnce = true) := by
  have known : ∀ {t}, s.step e = some t → s.after e = t := fun h => by rw [after, h]; rfl
  cases hsub : e.subject? with
  | some i =>
    cases h : s.step e with
    | some t =>
      rw [known h]
      exact .inl (change_of_subject hsub h)
    | none =>
      refine .inr ⟨by rw [after, h]; rfl, fun hd => ?_⟩
      simp [decision?_eq_none_of_subject? hsub] at hd
  | none =>
    -- the events that belong to no call always fit
    cases e with
    | arrive call => exact .inl (.arrive call)
    | reload rules => exact .inl (.reload rules)
    | decide raw =>
      obtain ⟨t, h, ht⟩ := s.step_decide raw
      rwa [known h]
    | withdraw =>
      obtain ⟨t, h, ht⟩ := s.step_withdraw
      rwa [known h]
    | _ => cases hsub

/-! ## What progress leaves alone -/

section Frame

variable {e : Event} {p q : Phase} {u t : Session} {j : Nat}

theorem Progress.subject? (h : Progress s i call e p u q) : e.subject? = some i := by
  cases h with
  | decline hg => cases hg <;> rfl
  | collide hg =>
    rcases hg with hg | rfl
    · cases hg <;> rfl
    · rfl
  | _ => rfl

theorem Progress.calls (h : Progress s i call e p u q) : u.calls = s.calls := by
  cases h <;> rfl

theorem Progress.config (h : Progress s i call e p u q) : u.config = s.config := by
  cases h <;> rfl

theorem Progress.rules (h : Progress s i call e p u q) : u.rules = s.rules := by
  cases h <;> rfl

theorem Progress.audit (h : Progress s i call e p u q) : u.audit = s.audit := by
  cases h <;> rfl

theorem Progress.ran (h : Progress s i call e p u q) : u.ran = s.ran := by
  cases h <;> rfl

/-- Prompts are shown by calls that ask, one at a time. -/
theorem Progress.asked (h : Progress s i call e p u q) :
    u.asked = s.asked ∨ ∃ d attempt, p = .asking d attempt false ∧ e = .show_ i ∧
      q = .asking d attempt true ∧
        u.asked = s.asked ++ [⟨call.action, call.args, d, attempt⟩] := by
  cases h with
  | show_ => exact .inr ⟨_, _, rfl, rfl, rfl, rfl⟩
  | _ => exact .inl rfl

/-- A call that has begun never stands at its beginning again. -/
theorem Progress.ne_ready (h : Progress s i call e p u q) : q ≠ .ready := by
  cases h with
  | late | pass | settle | decline =>
    unfold Phase.following
    split <;> simp
  | _ => simp

/-- A call that has its outcome makes no progress. -/
theorem Progress.not_done {r : GateResult} : ¬ Progress s i call e (.done r) u q := nofun

/-- Nor does one that has failed. -/
theorem Progress.not_failed {f : CallFailure} : ¬ Progress s i call e (.failed f) u q := nofun

/-- The other calls stay where they are. -/
theorem Progress.call?_ne (h : Progress s i call e p u q) (hj : j ≠ i) :
    (u.land i call q).call? j = s.call? j := by
  rw [call?_land_ne hj, call?, h.calls, call?]

theorem Progress.call?_self (h : Progress s i call e p u q) (hi : s.call? i = some (call, p)) :
    (u.land i call q).call? i = some (call, q) := by
  refine call?_land_self (x := (call, p)) ?_ call q
  rw [call?, h.calls]
  exact hi

/-- All calls stay the same calls. -/
theorem Progress.call?_fst (h : Progress s i call e p u q) (hi : s.call? i = some (call, p)) (j : Nat) :
    ((u.land i call q).call? j).map (·.1) = (s.call? j).map (·.1) := by
  by_cases hj : j = i
  · subst hj
    rw [h.call?_self hi, hi]
    rfl
  · rw [h.call?_ne hj]

/-- Where a call stands after an event, seen from before: it stays, or it progresses. -/
theorem Change.call? (h : Change s e t) (hi : s.call? i = some (call, p)) :
    t.call? i = some (call, p) ∨
      ∃ u q, Progress s i call e p u q ∧ t = u.land i call q := by
  cases h with
  | @call k callk _ pk u q hk hp =>
    by_cases hik : i = k
    · subst hik
      obtain ⟨rfl, rfl⟩ : callk = call ∧ pk = p := by
        rw [hi] at hk
        simpa [eq_comm] using hk
      exact .inr ⟨u, q, hp, rfl⟩
    · exact .inl ((hp.call?_ne hik).trans hi)
  | arrive new =>
    obtain ⟨hlt, -⟩ := List.getElem?_eq_some_iff.mp hi
    refine .inl ?_
    rw [← hi]
    exact List.getElem?_append_left hlt
  | speak _ _ => exact .inl hi
  | reload _ => exact .inl hi

/-- Where a call stands after an event, seen from behind: it stood there before, it is new, or it has just
got there. -/
theorem Change.call?_cases (h : Change s e t) (hi : t.call? i = some (call, q)) :
    s.call? i = some (call, q) ∨ (s.call? i = none ∧ q = .ready) ∨
      ∃ p u, s.call? i = some (call, p) ∧ Progress s i call e p u q ∧ t = u.land i call q := by
  cases hs : s.call? i with
  | some x =>
    obtain ⟨call', p⟩ := x
    rcases h.call? hs with ht | ⟨u, q', hp, rfl⟩
    · rw [hi] at ht
      exact .inl ht.symm
    · rw [hp.call?_self hs] at hi
      obtain ⟨rfl, rfl⟩ : call' = call ∧ q' = q := by simpa using hi
      exact .inr (.inr ⟨p, u, rfl, hp, rfl⟩)
  | none =>
    cases h with
    | @call k callk _ pk u q' hk hp =>
      by_cases hik : i = k
      · subst hik
        rw [hs] at hk
        cases hk
      · rw [hp.call?_ne hik, hs] at hi
        cases hi
    | arrive new =>
      -- the place of the new call is the end of the list
      have hle : s.calls.length ≤ i := List.getElem?_eq_none_iff.mp hs
      have hi' : [(new, Phase.ready)][i - s.calls.length]? = some (call, q) := by
        rw [← List.getElem?_append_right hle]
        exact hi
      obtain ⟨_, h1⟩ := List.getElem?_eq_some_iff.mp hi'
      simp only [List.getElem_singleton, Prod.mk.injEq] at h1
      exact .inr (.inl ⟨rfl, h1.2.symm⟩)
    | speak _ _ =>
      rw [show s.call? i = some (call, q) from hi] at hs
      cases hs
    | reload _ =>
      rw [show s.call? i = some (call, q) from hi] at hs
      cases hs

/-- How a session is set up never changes. -/
theorem Change.config (h : Change s e t) : t.config = s.config := by
  cases h with
  | call _ hp => rw [land_config, hp.config]
  | arrive _ | speak _ _ | reload _ => rfl

/-- The rules change by being exchanged, and by nothing else. -/
theorem Change.rules (h : Change s e t) : t.rules = s.rules ∨ e = .reload t.rules := by
  cases h with
  | call _ hp => rw [land_rules, hp.rules]; exact .inl rfl
  | arrive _ | speak _ _ => exact .inl rfl
  | reload _ => exact .inr rfl

/-- The effect of an event of a call is that the call makes progress. -/
theorem Change.exists_progress (h : Change s e t) (hsub : e.subject? = some i) :
    ∃ call p u q, s.call? i = some (call, p) ∧ Progress s i call e p u q ∧ t = u.land i call q := by
  cases h with
  | @call k call e p u q hi hp =>
    obtain rfl : k = i := Option.some.inj (hp.subject?.symm.trans hsub)
    exact ⟨call, p, u, q, hi, hp, rfl⟩
  | arrive _ | reload _ => cases hsub
  | speak hd _ =>
    rw [decision?_eq_none_of_subject? hsub] at hd
    cases hd

/-- An event of a call has no effect, or the call makes progress by it. -/
theorem after_subject_cases (s : Session) (h : e.subject? = some i) :
    s.after e = s ∨ ∃ call p u q, s.call? i = some (call, p) ∧
      Progress s i call e p u q ∧ s.after e = u.land i call q := by
  rcases s.after_cases e with hc | ⟨hs, -⟩
  · exact .inr (hc.exists_progress h)
  · exact .inl hs

end Frame

end Session
end PolicyGate
