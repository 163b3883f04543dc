import PolicyGate.Proofs.Consent.Audit
import PolicyGate.Proofs.Consent.Overtaking
import PolicyGate.Proofs.Consent.Schedule

/-!
# Cancelling one of several calls

What a cancellation means depends on where the call stands that it hits. A call that has the turn to ask
speaks for all of them, so its cancellation is a no to all (`Run.EndsInNo`): the session is closed, nobody is
asked any more, and whoever waits for the turn or begins later is blocked. Any other call only takes itself
out (`Run.StepsAside`): it leaves the queue if it was there, and the session is the same apart from that.

A closed session (`Session.Closed`) is one that has decided with a no and in which nobody has the turn.
Nothing opens it again, and that carries everything that is said of the moments after a no.
-/

namespace PolicyGate

namespace Session

variable {s t u : Session} {i : Nat} {call : Call} {d : Decision} {e : Event} {p q : Phase}

/-! ## Closed sessions -/

/-- The session has decided with a no, and nobody has the turn to ask. -/
structure Closed (s : Session) : Prop where
  declined : s.consent = ⟨.deny, true⟩
  free : s.holder = none

/-- In a closed session no call takes the turn, decides anything or shows a prompt. -/
theorem Closed.progress (hs : s.Closed) (hturn : s.TurnHeld) (hi : s.call? i = some (call, p))
    (h : Progress s i call e p u q) : u.Closed ∧ u.asked = s.asked := by
  have hp : p.isAsking = false := hturn.not_asking hi (by simp [hs.free])
  refine ⟨⟨?_, ?_⟩, h.asked_of_not_asking hp⟩
  · rcases h.consent with heq | ⟨ha, -⟩
    · exact heq.trans hs.declined
    · rw [hs.declined] at ha
      cases ha
  · rcases h.turn with ⟨-, hu, -⟩ | ⟨-, -, -, ha⟩ | ⟨hask, -⟩
    · exact hu.trans hs.free
    · -- who takes the turn has looked whether something is decided
      rcases h.consent with heq | ⟨hnone, -⟩
      · rw [heq, hs.declined] at ha
        cases ha
      · rw [hs.declined] at hnone
        cases hnone
    · rw [hp] at hask
      cases hask

theorem closed_change (hturn : s.TurnHeld) (hs : s.Closed) (h : Change s e t) :
    t.Closed ∧ t.asked = s.asked := by
  cases h with
  | @call i call _ p u q hi hp =>
    obtain ⟨hu, hasked⟩ := hs.progress hturn hi hp
    refine ⟨⟨?_, ?_⟩, ?_⟩
    · rw [land_consent, hu.declined]
    · rw [land_holder, hu.free]
    · rw [land_asked, hasked]
  | arrive _ | reload _ => exact ⟨⟨hs.declined, hs.free⟩, rfl⟩
  | speak _ ha =>
    rw [hs.declined] at ha
    cases ha

/-! ## Events that fit -/

theorem step_takeTurn (hi : s.call? i = some (call, .queued d)) (hh : s.holder = none)
    (hq : i ∈ s.queue) :
    s.step (.takeTurn i) = some ({ s with queue := s.queue.erase i }.enter i call d) := by
  simp [step, hi, hh, hq]

/-- The session without a call that was cancelled. -/
def without (s : Session) (i : Nat) (call : Call) : Session :=
  { s with queue := s.queue.erase i, calls := s.calls.set i (call, .failed .cancelled) }

theorem step_cancel (hline : s.InLine) (hi : s.call? i = some (call, p)) (hask : p.isAsking = false)
    (hover : p.isOver = false) : s.step (.cancel i) = some (s.without i call) := by
  -- a call that does not wait for its turn is not in the queue
  have hout : p.isQueued = false → s.queue.erase i = s.queue := fun hq => by
    refine List.erase_of_not_mem fun hmem => ?_
    rw [hline.mem_iff, queues_iff hi, hq] at hmem
    cases hmem
  cases p with
  | ready | running d => simp [step, hi, move, without, hout rfl]
  | queued d => simp [step, hi, move, without]
  | asking d attempt shown => cases hask
  | done _ | failed _ => cases hover

theorem step_cancel_over (hi : s.call? i = some (call, p)) (hover : p.isOver = true) :
    s.step (.cancel i) = none := by
  cases p with
  | done _ | failed _ => simp [step, hi]
  | _ => cases hover

end Session

namespace Run

open Session

variable {r : Run} {m n i : Nat} {call : Call} {d : Decision} {p : Phase}

/-! ## A no to all -/

/-- A closed session stays closed, and nobody is asked any more. -/
theorem closed_stays (hmn : m ≤ n) (hs : (r.session m).Closed) :
    (r.session n).Closed ∧ (r.session n).asked = (r.session m).asked := by
  induction hmn with
  | refl => exact ⟨hs, rfl⟩
  | @step n _ ih =>
    obtain ⟨hn, hasked⟩ := ih
    rcases r.next_cases n with h | ⟨h, -⟩
    · obtain ⟨ht, hsame⟩ := closed_change (r.turnHeld n) hn h
      exact ⟨ht, hsame.trans hasked⟩
    · rw [h]
      exact ⟨hn, hasked⟩

/-- A call that begins in a closed session and needs consent is blocked at once. -/
theorem Begins.declined (hb : r.Begins m i call) (hd : (r.session m).Seeks call d)
    (hs : (r.session m).Closed) :
    (r.session (m + 1)).call? i = some (call, .done (.blocked call d .consentDeclined)) := by
  obtain ⟨u, q, hp, heq⟩ := hb.progress
  have hdecided : (r.session m).consent.askedOnce = true := by rw [hs.declined]
  rw [heq, hp.call?_self hb.2]
  cases hp with
  | @late d' hd' =>
    -- the rules say one thing about the call, so this is the same decision
    have hsame := hd.decided.symm.trans hd'.decided
    rw [Except.ok.inj hsame, hs.declined]
    rfl
  | undecidable hv =>
    rw [hd.decided] at hv
    cases hv
  | harmless _ hc =>
    rw [hd.changes] at hc
    cases hc
  | denied hv _ hdeny =>
    rw [hd.decided] at hv
    obtain rfl := Except.ok.inj hv
    exact absurd hdeny hd.undenied
  | alone _ ha | enter _ ha | line _ ha =>
    rw [hdecided] at ha
    cases ha

/-- What becomes of a call that waits for its turn in a closed session. -/
theorem queued_next (hs : (r.session n).Closed)
    (hi : (r.session n).call? i = some (call, .queued d)) :
    (r.session (n + 1)).call? i = some (call, .queued d) ∨
      (r.session (n + 1)).call? i = some (call, .done (.blocked call d .consentDeclined)) ∨
      (r.session (n + 1)).call? i = some (call, .failed .cancelled) ∧ r.event n = .cancel i := by
  have hdecided : (r.session n).consent.askedOnce = true := by rw [hs.declined]
  rcases r.call?_next hi with h | ⟨u, q, hp, heq⟩
  · exact .inl h
  · right
    rw [heq, hp.call?_self hi]
    generalize r.event n = e at hp
    cases hp with
    | pass =>
      rw [hs.declined]
      exact .inl rfl
    | takeTurn _ _ ha =>
      rw [hdecided] at ha
      cases ha
    | cancelQueued => exact .inr ⟨rfl, rfl⟩

/-- A call that waits for its turn in a closed session is blocked when it gets it. -/
theorem takeTurn_declined (hs : (r.session n).Closed)
    (hi : (r.session n).call? i = some (call, .queued d)) (he : r.event n = .takeTurn i) :
    (r.session (n + 1)).call? i = some (call, .done (.blocked call d .consentDeclined)) := by
  have hq : i ∈ (r.session n).queue := ((r.inLine n).mem_iff i).mpr ⟨call, _, hi, rfl⟩
  have hstep := step_takeTurn hi hs.free hq
  obtain ⟨u, q, hp, heq⟩ := enter_eq_land call d hs.free hq
  rw [r.next_of_step (by rw [he, hstep]), heq, hp.call?_self hi]
  cases hp with
  | pass =>
    rw [hs.declined]
    rfl
  | takeTurn _ _ ha =>
    rw [hs.declined] at ha
    cases ha

/-- From moment `n` on call `j`, which waits for its turn, can only wait until it is blocked as declined,
unless it is cancelled itself. Its turn is all that it needs for that. -/
def Resigns (r : Run) (n j : Nat) (call : Call) (d : Decision) : Prop :=
  ∀ k ≥ n,
    ((r.session k).call? j = some (call, .queued d) ∧ (r.event k = .takeTurn j →
      (r.session (k + 1)).call? j = some (call, .done (.blocked call d .consentDeclined)))) ∨
    (r.session k).call? j = some (call, .done (.blocked call d .consentDeclined)) ∨
    (r.session k).call? j = some (call, .failed .cancelled) ∧
      ∃ l, n ≤ l ∧ l < k ∧ r.event l = .cancel j

theorem resigns (hs : (r.session n).Closed) (hi : (r.session n).call? i = some (call, .queued d)) :
    r.Resigns n i call d := by
  intro k hk
  induction hk with
  | refl => exact .inl ⟨hi, takeTurn_declined hs hi⟩
  | @step k hk ih =>
    have hclosed := (closed_stays hk hs).1
    have hclosed' := (closed_stays (Nat.le_succ_of_le hk) hs).1
    rcases ih with ⟨hq, -⟩ | hdone | ⟨hgone, l, hl, hlk, he⟩
    · rcases queued_next hclosed hq with h | h | ⟨h, he⟩
      · exact .inl ⟨h, takeTurn_declined hclosed' h⟩
      · exact .inr (.inl h)
      · exact .inr (.inr ⟨h, k, hk, Nat.lt_succ_self k, he⟩)
    · exact .inr (.inl (r.done_stays (Nat.le_succ k) hdone))
    · exact .inr (.inr ⟨r.failed_stays (Nat.le_succ k) hgone, l, hl, Nat.lt_succ_of_lt hlk, he⟩)

/-- The cancellation of call `i` at moment `n` is a no to all: the session is closed from then on. -/
structure EndsInNo (r : Run) (n i : Nat) (call : Call) : Prop where
  cancelled : ∀ k > n, (r.session k).call? i = some (call, .failed .cancelled)
  closed : ∀ k > n, (r.session k).Closed
  silent : ∀ k > n, (r.session k).asked = (r.session n).asked
  waiting : ∀ j call' d, (r.session n).call? j = some (call', .queued d) → r.Resigns (n + 1) j call' d
  later : ∀ m > n, ∀ j call' d, r.Begins m j call' → (r.session m).Seeks call' d → ∀ k > m,
    (r.session k).call? j = some (call', .done (.blocked call' d .consentDeclined))
  /-- Whoever seeks consent, whenever the call began, gets no other outcome any more. -/
  outcome : ∀ m j call' d, r.Begins m j call' → (r.session m).Seeks call' d →
    ∀ k ≥ n, ∀ res, r.Completes k j call' res → res = .blocked call' d .consentDeclined

/-- A call that has the turn is cancelled, and nothing is decided yet. -/
theorem endsInNo {attempt : Nat} {shown : Bool}
    (hi : (r.session n).call? i = some (call, .asking d attempt shown))
    (ha : (r.session n).consent.askedOnce = false) (he : r.event n = .cancel i) :
    r.EndsInNo n i call := by
  have hnext : r.session (n + 1) = ({ r.session n with consent := ⟨.deny, true⟩, holder := none } :
      Session).land i call (.failed .cancelled) := by
    rw [next_of_cancel hi he, abandon_fresh i call ha]
  have hclosed : (r.session (n + 1)).Closed := by
    rw [hnext]
    exact ⟨land_consent .., land_holder ..⟩
  have hself : (r.session (n + 1)).call? i = some (call, .failed .cancelled) := by
    rw [hnext]
    exact (Progress.abandon ha).call?_self hi
  have hasked : (r.session (n + 1)).asked = (r.session n).asked := by rw [hnext, land_asked]
  refine ⟨fun k hk => r.failed_stays hk hself, fun k hk => (closed_stays hk hclosed).1,
    fun k hk => (closed_stays hk hclosed).2.trans hasked, fun j call' d' hj => ?_,
    fun m hm j call' d' hb hd k hk => ?_, fun m j call' d' hb hd k hk res hc => ?_⟩
  · -- the call that waits is another one, so it still waits one moment later
    have hji : j ≠ i := by
      rintro rfl
      rw [hi] at hj
      cases hj
    refine resigns hclosed ?_
    rw [hnext, call?_land_ne hji]
    exact hj
  · exact r.done_stays hk (hb.declined hd (closed_stays hm hclosed).1)
  · have hdeny := (closed_stays (Nat.succ_le_succ hk) hclosed).1.declined
    have hobeys := hc.obeys hb hd (by rw [hdeny])
    rwa [hdeny] at hobeys

/-! ## Only one call less -/

/-- The cancellation of call `i` at moment `n` takes the call out, and is nothing to the others. -/
structure StepsAside (r : Run) (n i : Nat) (call : Call) : Prop where
  next : r.session (n + 1) = (r.session n).without i call
  gone : ∀ k > n, (r.session k).call? i = some (call, .failed .cancelled) ∧
    (r.session k).holder ≠ some i ∧ i ∉ (r.session k).queue
  /-- A prompt that is before the person stays there, and what the person answers decides. -/
  pending : ∀ j call' d attempt, (r.session n).call? j = some (call', .asking d attempt true) →
    (r.session (n + 1)).call? j = some (call', .asking d attempt true) ∧
      (r.session (n + 1)).holder = some j ∧
      ∀ raw mode, r.event (n + 1) = .reply j raw → Reply.mode? raw = some mode →
        (r.session (n + 2)).consent = ⟨mode, true⟩
  /-- Whenever the turn is free and nothing is decided, whoever waits for the turn can take it. -/
  usable : ∀ k > n, (r.session k).holder = none → (r.session k).consent.askedOnce = false →
    ∀ j call' d, (r.session k).call? j = some (call', .queued d) → r.event k = .takeTurn j →
      (r.session (k + 1)).call? j = some (call', .asking d 1 false)

/-- A reply to a prompt decides if it is understood and nothing was decided. -/
theorem consent_of_reply {attempt : Nat} {raw : Option String} {mode : ConsentMode}
    (hi : (r.session n).call? i = some (call, .asking d attempt true))
    (ha : (r.session n).consent.askedOnce = false) (he : r.event n = .reply i raw)
    (hm : Reply.mode? raw = some mode) : (r.session (n + 1)).consent = ⟨mode, true⟩ := by
  have hstep : (r.session n).step (.reply i raw) = some ((r.session n).answer i call d attempt raw) := by
    simp only [step, hi]
  rw [r.next_of_step (by rw [he, hstep]), answer, hear_decides hm ha]
  simp only [Option.isSome_some, if_true]
  rw [follow_eq_land, land_consent]
  rfl

/-- Whoever waits for its turn can take it while it is free and nothing is decided. -/
theorem takeTurn_asks (hi : (r.session n).call? i = some (call, .queued d))
    (hh : (r.session n).holder = none) (ha : (r.session n).consent.askedOnce = false)
    (he : r.event n = .takeTurn i) :
    (r.session (n + 1)).call? i = some (call, .asking d 1 false) := by
  have hq : i ∈ (r.session n).queue := ((r.inLine n).mem_iff i).mpr ⟨call, _, hi, rfl⟩
  have hstep := step_takeTurn hi hh hq
  obtain ⟨u, q, hp, heq⟩ := enter_eq_land call d hh hq
  rw [r.next_of_step (by rw [he, hstep]), heq, hp.call?_self hi]
  cases hp with
  | pass _ _ hdec =>
    rw [ha] at hdec
    cases hdec
  | takeTurn => rfl

/-- A call that has come to its end neither has the turn nor waits for it. -/
theorem out_of_isOver (hi : (r.session n).call? i = some (call, p)) (hp : p.isOver = true) :
    (r.session n).holder ≠ some i ∧ i ∉ (r.session n).queue := by
  constructor
  · intro hh
    have hask := (asks_iff hi).mp ((r.turnHeld n i).mp hh)
    cases p <;> simp_all [Phase.isOver, Phase.isAsking]
  · intro hq
    have hwait := (queues_iff hi).mp (((r.inLine n).mem_iff i).mp hq)
    cases p <;> simp_all [Phase.isOver, Phase.isQueued]

/-- A call that does not have the turn is cancelled. -/
theorem stepsAside (hi : (r.session n).call? i = some (call, p)) (hask : p.isAsking = false)
    (hover : p.isOver = false) (he : r.event n = .cancel i)
    (hquiet : ∀ j, (r.session n).holder = some j → (r.session n).consent.askedOnce = false) :
    r.StepsAside n i call := by
  have hnext : r.session (n + 1) = (r.session n).without i call :=
    r.next_of_step (by rw [he, step_cancel (r.inLine n) hi hask hover])
  have hself : (r.session (n + 1)).call? i = some (call, .failed .cancelled) := by
    obtain ⟨hlt, -⟩ := List.getElem?_eq_some_iff.mp hi
    rw [hnext, call?, without, List.getElem?_set_self hlt]
  refine ⟨hnext, fun k hk => ?_, fun j call' d attempt hj => ?_, fun k _ hh ha j call' d hj he' => ?_⟩
  · have hk' := r.failed_stays hk hself
    exact ⟨hk', out_of_isOver hk' rfl⟩
  · -- the one who has the turn is another, and is left alone
    have hji : i ≠ j := by
      rintro rfl
      rw [hi] at hj
      cases hj
      cases hask
    have hj' : (r.session (n + 1)).call? j = some (call', .asking d attempt true) := by
      rw [hnext, ← hj, call?, without, List.getElem?_set_ne hji]
      rfl
    have ha : (r.session (n + 1)).consent.askedOnce = false := by
      rw [hnext]
      exact hquiet j (r.holder_of_asking hj)
    exact ⟨hj', r.holder_of_asking hj', fun raw mode => consent_of_reply hj' ha⟩
  · exact takeTurn_asks hj hh ha he'

/-! ## Every cancellation -/

/-- The end of call `i` at moment `n` leaves nothing on the audit log, neither then nor later. -/
structure Unaudited (r : Run) (n i : Nat) : Prop where
  same : (r.session (n + 1)).audit = (r.session n).audit
  never : ∀ k, ∀ o ∈ r.outcomes k, o.number ≠ i

/-- A call that ends in a failure never has an outcome. -/
theorem unaudited {f : CallFailure} (hi : (r.session n).call? i = some (call, p)) (hover : p.isOver = false)
    (hself : (r.session (n + 1)).call? i = some (call, .failed f)) : r.Unaudited n i := by
  refine ⟨?_, fun k o ho => number_ne_of_failed hself ho⟩
  rcases r.call?_next hi with hsame | ⟨u, q, hp, hs⟩
  · rw [hself] at hsame
    cases hsame
    cases hover
  · have hq := hp.call?_self hi
    rw [← hs, hself] at hq
    cases hq
    rw [hs, land_audit u i call (by simp), hp.audit]

/-- Nobody has decided from outside: then nothing is decided while a call has the turn. -/
theorem undecided_of_quiet (hquiet : ∀ k < n, (r.event k).decision? = none) (j : Nat)
    (hh : (r.session n).holder = some j) : (r.session n).consent.askedOnce = false := by
  have hnot : ¬ r.Overtaken n j := by
    rintro ⟨k, hk, -, hd⟩
    rw [hquiet k hk] at hd
    cases hd
  simpa using mt (overtaken_iff hh).mp hnot

/-- What the cancellation of a call does, if nobody has decided from outside. -/
theorem cancellation_by_phase (hquiet : ∀ k < n, (r.event k).decision? = none) (he : r.event n = .cancel i)
    (hi : (r.session n).call? i = some (call, p)) :
    (p.isAsking = true → r.EndsInNo n i call ∧ r.Unaudited n i) ∧
    (p.isAsking = false → p.isOver = false → r.StepsAside n i call ∧ r.Unaudited n i) ∧
    (p.isOver = true → r.session (n + 1) = r.session n) := by
  refine ⟨fun hask => ?_, fun hask hover => ?_, fun hover => ?_⟩
  · cases p with
    | asking d attempt shown =>
      have hno := endsInNo hi (undecided_of_quiet hquiet i (r.holder_of_asking hi)) he
      exact ⟨hno, unaudited hi rfl (hno.cancelled _ (Nat.lt_succ_self n))⟩
    | _ => cases hask
  · have haside := stepsAside hi hask hover he (undecided_of_quiet hquiet)
    exact ⟨haside, unaudited hi hover (haside.gone _ (Nat.lt_succ_self n)).1⟩
  · rw [session, Session.after, he, step_cancel_over hi hover]
    rfl

end Run
end PolicyGate
