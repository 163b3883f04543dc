import PolicyGate.Proofs.Consent.Turn

/-!
# Schedules

When calls run side by side, what happens next is a matter of which call goes on next. A schedule answers
just that: it is a list of call numbers. Everything else about a session is fixed beforehand by a
`Scenario`, which also says what the person answers to each prompt and what comes of each action.

A call that is given a step takes the one step that is next for it, if it can. It cannot only when it is
over, or when it waits for a turn that another call has (`Scenario.advance_of_able`). Hence nobody waits for
ever: where no call can go on, no call is left (`Scenario.over_of_rests`). And no schedule goes on for ever,
because each step that has an effect brings a call nearer to its end (`Scenario.busy_length_le`).

Calls that follow each other without overlap have a schedule too, `Scenario.oneByOne`. It is the one that
all others are compared with.
-/

namespace PolicyGate

/-! ## How much is left to do -/

namespace Phase

/-- The call has come to its end. -/
def isOver : Phase → Bool
  | .done _ | .failed _ => true
  | .ready | .queued _ | .asking _ _ _ | .running _ => false

/-- An upper bound on the steps that a call has yet to take if it may ask so many times. -/
def rank (attempts : Nat) : Phase → Nat
  | .ready => 2 * attempts + 3
  | .queued _ => 2 * attempts + 2
  | .asking _ attempt shown => 2 * (attempts - attempt) + (if shown then 2 else 3)
  | .running _ => 1
  | .done _ | .failed _ => 0

variable {attempts : Nat} {p : Phase}

theorem rank_of_isOver (h : p.isOver = true) : p.rank attempts = 0 := by
  cases p with
  | done _ | failed _ => rfl
  | ready | queued _ | asking _ _ _ | running _ => cases h

theorem isOver_of_rank (h : p.rank attempts = 0) : p.isOver = true := by
  cases p with
  | done _ | failed _ => rfl
  | asking d attempt shown =>
    simp only [rank] at h
    split at h <;> omega
  | ready | queued _ | running _ => simp [rank] at h

theorem rank_following_le (mode : ConsentMode) (call : Call) (d : Decision) :
    (following mode call d).rank attempts ≤ 1 := by
  cases mode <;> simp [following, rank]

end Phase

namespace Session

/-- Nothing is left to do. -/
def Over (s : Session) : Prop := ∀ i call p, s.call? i = some (call, p) → p.isOver = true

/-- An upper bound on the steps that these calls have yet to take. -/
def remaining (attempts : Nat) : List (Call × Phase) → Nat
  | [] => 0
  | (_, p) :: calls => p.rank attempts + remaining attempts calls

/-- An upper bound on the steps that all calls of a session have yet to take. -/
def potential (s : Session) : Nat := remaining s.config.attempts s.calls

variable {s u : Session} {i : Nat} {call : Call} {e : Event} {p q : Phase}

/-- Whatever a call does brings it nearer to its end. -/
theorem Progress.rank_lt (h : Progress s i call e p u q) :
    q.rank s.config.attempts < p.rank s.config.attempts := by
  have hone := s.config.one_le_attempts
  have hfollow : ∀ mode d, (Phase.following mode call d).rank s.config.attempts ≤ 1 :=
    fun mode d => Phase.rank_following_le mode call d
  cases h with
  | late | pass =>
    refine Nat.lt_of_le_of_lt (hfollow _ _) ?_
    simp only [Phase.rank]
    omega
  | settle | decline =>
    refine Nat.lt_of_le_of_lt (hfollow _ _) ?_
    simp only [Phase.rank]
    split <;> omega
  | abandon | collide =>
    simp only [Phase.rank]
    split <;> omega
  | _ =>
    simp only [Phase.rank, if_true, Bool.false_eq_true, if_false]
    omega

/-- If one call has less to do and the others have not moved, there is less to do. -/
theorem remaining_set_lt {attempts : Nat} {calls : List (Call × Phase)}
    (hi : calls[i]? = some (call, p)) (h : q.rank attempts < p.rank attempts) :
    remaining attempts (calls.set i (call, q)) < remaining attempts calls := by
  induction calls generalizing i with
  | nil => simp at hi
  | cons x calls ih =>
    cases i with
    | zero =>
      obtain rfl : x = (call, p) := by simpa using hi
      exact Nat.add_lt_add_right h _
    | succ i => exact Nat.add_lt_add_left (ih (by simpa using hi)) _

theorem Progress.potential_lt (h : Progress s i call e p u q) (hi : s.call? i = some (call, p)) :
    (u.land i call q).potential < s.potential := by
  rw [potential, potential, land_config, land_calls, h.config, h.calls]
  exact remaining_set_lt hi h.rank_lt

end Session

/-! ## What a schedule leaves open -/

/-- All about a session that does not depend on its schedule. -/
structure Scenario where
  config : GateConfig
  rules : RuleSet
  /-- What was decided before. -/
  consent : ConsentState := .fresh
  calls : List Call
  /-- The answers of the person, by the number of the prompt in the session. What the prompt is about does
  not matter. -/
  replies : Nat → Option String
  /-- What comes of an action. -/
  execute : String → Value → Except String Value

namespace Scenario

open Session

/-- The session before any call has begun. -/
def start (w : Scenario) : Session where
  config := w.config
  rules := w.rules
  consent := w.consent
  calls := w.calls.map fun call => (call, .ready)

/-- What is next for a call in a session with so many prompts. Nothing goes wrong with the asking, takes too
long or is cancelled. -/
def next? (w : Scenario) (i asked : Nat) (call : Call) : Phase → Option Event
  | .ready => some (.begin i)
  | .queued _ => some (.takeTurn i)
  | .asking _ _ false => some (.show_ i)
  | .asking _ _ true => some (.reply i (w.replies (asked - 1)))
  | .running _ => some (.finish i (w.execute call.action call.args))
  | .done _ | .failed _ => none

/-- The session after call `i` was given a step. -/
def advance (w : Scenario) (s : Session) (i : Nat) : Session :=
  ((s.call? i).bind fun (call, p) => w.next? i s.asked.length call p).elim s s.after

/-- The session after a schedule: the calls with these numbers are given a step, one after another. -/
def serve (w : Scenario) (s : Session) (schedule : List Nat) : Session := schedule.foldl w.advance s

/-- No call can go on. -/
def Rests (w : Scenario) (s : Session) : Prop := ∀ i, w.advance s i = s

/-- Every step of the schedule has an effect. -/
def Busy (w : Scenario) (s : Session) : List Nat → Prop
  | [] => True
  | i :: schedule => w.advance s i ≠ s ∧ w.Busy (w.advance s i) schedule

/-- The schedule on which the first `k` calls follow each other. Each is given as many steps as a call ever
takes. -/
def oneByOne (w : Scenario) (k : Nat) : List Nat :=
  (List.range k).flatMap fun i => List.replicate (2 * w.config.attempts + 3) i

/-! ## One step of a schedule -/

/-- `w.Steps s i call p u q`: what is next for the call takes it from phase `p` to phase `q`. -/
def Steps (w : Scenario) (s : Session) (i : Nat) (call : Call) (p : Phase) (u : Session) (q : Phase) :
    Prop :=
  ∃ e, w.next? i s.asked.length call p = some e ∧ Progress s i call e p u q

variable (w : Scenario) {s u : Session} {i : Nat} {call : Call} {p q : Phase} {schedule : List Nat}

theorem subject?_of_next? {asked : Nat} {e : Event} (h : w.next? i asked call p = some e) :
    e.subject? = some i := by
  cases p with
  | asking d attempt shown =>
    cases shown <;> obtain rfl := Option.some.inj h <;> rfl
  | ready | queued _ | running _ =>
    obtain rfl := Option.some.inj h
    rfl
  | done _ | failed _ => cases h

theorem advance_eq (hi : s.call? i = some (call, p)) :
    w.advance s i = (w.next? i s.asked.length call p).elim s s.after := by
  rw [advance, hi]
  rfl

/-- A step of a schedule has no effect, or the call makes progress by what is next for it. -/
theorem advance_cases (s : Session) (i : Nat) :
    w.advance s i = s ∨ ∃ call p u q, s.call? i = some (call, p) ∧ w.Steps s i call p u q ∧
      w.advance s i = u.land i call q := by
  cases hi : s.call? i with
  | none => exact .inl (by rw [advance, hi]; rfl)
  | some x =>
    obtain ⟨call, p⟩ := x
    rw [w.advance_eq hi]
    cases hn : w.next? i s.asked.length call p with
    | none => exact .inl rfl
    | some e =>
      rcases s.after_subject_cases (w.subject?_of_next? hn) with hs | ⟨call', p', u, q, hi', hp, hs⟩
      · exact .inl hs
      · rw [hi] at hi'
        cases hi'
        exact .inr ⟨call, p, u, q, rfl, ⟨e, hn, hp⟩, hs⟩

/-- A call that is not over goes on, unless it waits for a turn that is taken. -/
theorem advance_of_able (hi : s.call? i = some (call, p)) (hp : p.isOver = false)
    (hfree : p.isQueued = true → s.holder = none ∧ i ∈ s.queue) :
    ∃ u q, w.Steps s i call p u q ∧ w.advance s i = u.land i call q := by
  have hfits : ∃ e, w.next? i s.asked.length call p = some e ∧ (s.step e).isSome = true := by
    cases p with
    | ready => exact ⟨_, rfl, by simp [step, hi]⟩
    | queued d =>
      obtain ⟨hh, hq⟩ := hfree rfl
      exact ⟨_, rfl, by simp [step, hi, hh, hq]⟩
    | asking d attempt shown => cases shown <;> exact ⟨_, rfl, by simp [step, hi]⟩
    | running d => exact ⟨_, rfl, by simp [step, hi]⟩
    | done _ | failed _ => cases hp
  obtain ⟨e, hn, hfit⟩ := hfits
  obtain ⟨t, ht⟩ := Option.isSome_iff_exists.mp hfit
  have hsub := w.subject?_of_next? hn
  obtain ⟨call', p', u, q, hi', hprog, htu⟩ := (change_of_subject hsub ht).exists_progress hsub
  rw [hi] at hi'
  cases hi'
  refine ⟨u, q, ⟨e, hn, hprog⟩, ?_⟩
  rw [w.advance_eq hi, hn, Option.elim_some, after, ht, Option.getD_some, htu]

theorem advance_of_isOver (hi : s.call? i = some (call, p)) (hp : p.isOver = true) :
    w.advance s i = s := by
  rw [w.advance_eq hi]
  cases p with
  | done _ | failed _ => rfl
  | ready | queued _ | asking _ _ _ | running _ => cases hp

/-- Where all calls are over, no call can go on. -/
theorem rests_of_over (h : s.Over) : w.Rests s := by
  intro i
  rcases w.advance_cases s i with hs | ⟨call, p, u, q, hi, ⟨e, hn, hp⟩, -⟩
  · exact hs
  · exact w.advance_of_isOver hi (h i call p hi)

/-- Who gets further is not where it was. -/
theorem Steps.ne {w : Scenario} (h : w.Steps s i call p u q) (hi : s.call? i = some (call, p)) :
    u.land i call q ≠ s := by
  obtain ⟨e, -, hp⟩ := h
  intro heq
  have hlt := hp.potential_lt hi
  rw [heq] at hlt
  exact Nat.lt_irrefl _ hlt

/-- Nobody stands in the way of a call: no other call asks. -/
structure Alone (s : Session) (i : Nat) : Prop where
  turn : s.TurnHeld
  line : s.InLine
  others : ∀ j ≠ i, ¬ s.Asks j

/-- A call that nobody stands in the way of goes on until it is over. -/
theorem advance_of_alone (hs : Alone s i) (hi : s.call? i = some (call, p)) (hp : p.isOver = false) :
    ∃ u q, w.Steps s i call p u q ∧ w.advance s i = u.land i call q := by
  refine w.advance_of_able hi hp fun hq => ⟨?_, (hs.line.mem_iff i).mpr ⟨call, p, hi, hq⟩⟩
  cases hh : s.holder with
  | none => rfl
  | some j =>
    -- the one who asks could only be this call, but this call waits
    have hask := (hs.turn j).mp hh
    by_cases hj : j = i
    · subst hj
      rw [asks_iff hi] at hask
      cases p <;> simp [Phase.isQueued, Phase.isAsking] at hq hask
    · exact absurd hask (hs.others j hj)

/-- Where no call can go on, all calls are over: nobody waits for ever. -/
theorem over_of_rests (hturn : s.TurnHeld) (hline : s.InLine) (h : w.Rests s) : s.Over := by
  -- whoever asks can always go on
  have hnobody : ∀ j, ¬ s.Asks j := by
    rintro j ⟨call, p, hj, hask⟩
    have hnot : p.isOver = false ∧ p.isQueued = false := by
      cases p <;> simp [Phase.isAsking, Phase.isOver, Phase.isQueued] at hask ⊢
    obtain ⟨u, q, hstep, hs⟩ := w.advance_of_able hj hnot.1 (by simp [hnot.2])
    exact hstep.ne hj (hs.symm.trans (h j))
  intro i call p hi
  cases hp : p.isOver with
  | true => rfl
  | false =>
    obtain ⟨u, q, hstep, hs⟩ := w.advance_of_alone ⟨hturn, hline, fun j _ => hnobody j⟩ hi hp
    exact absurd (hs.symm.trans (h i)) (hstep.ne hi)

/-! ## Schedules as a whole -/

/-- What each step of a schedule keeps, the schedule keeps. -/
theorem serve_keeps {P : Session → Prop} (hs : P s)
    (step : ∀ {s i call p u q}, P s → s.call? i = some (call, p) → w.Steps s i call p u q →
      P (u.land i call q)) (schedule : List Nat) : P (w.serve s schedule) := by
  induction schedule generalizing s with
  | nil => exact hs
  | cons i schedule ih =>
    rcases w.advance_cases s i with heq | ⟨call, p, u, q, hi, hstep, heq⟩
    · -- an idle step changes nothing
      rw [serve, List.foldl_cons, heq]
      exact ih hs
    · rw [serve, List.foldl_cons, heq]
      exact ih (step hs hi hstep)

theorem serve_append (s : Session) (first second : List Nat) :
    w.serve s (first ++ second) = w.serve (w.serve s first) second := List.foldl_append

/-- A schedule without idle steps takes from what is left to do. -/
theorem busy_length_le (h : w.Busy s schedule) :
    schedule.length + (w.serve s schedule).potential ≤ s.potential := by
  induction schedule generalizing s with
  | nil => simp [serve]
  | cons i schedule ih =>
    obtain ⟨hne, hbusy⟩ := h
    have hrest := ih hbusy
    have hlt : (w.advance s i).potential < s.potential := by
      rcases w.advance_cases s i with heq | ⟨call, p, u, q, hi, ⟨e, -, hp⟩, heq⟩
      · exact absurd heq hne
      · rw [heq]
        exact hp.potential_lt hi
    rw [serve, List.foldl_cons, List.length_cons]
    rw [serve] at hrest
    omega

theorem potential_start : w.start.potential = w.calls.length * (2 * w.config.attempts + 3) := by
  have hall : ∀ calls : List Call,
      remaining w.config.attempts (calls.map fun call => (call, .ready))
        = calls.length * (2 * w.config.attempts + 3) := by
    intro calls
    induction calls with
    | nil => simp [remaining]
    | cons call calls ih =>
      rw [List.map_cons, remaining, ih, List.length_cons, Nat.add_mul calls.length 1, Nat.one_mul,
        Nat.add_comm]
      rfl
  exact hall w.calls

theorem call?_start (h : w.start.call? i = some (call, p)) : p = .ready := by
  rw [Session.call?, start, List.getElem?_map, Option.map_eq_some_iff] at h
  obtain ⟨call', -, heq⟩ := h
  cases heq
  rfl

theorem turnHeld_start : w.start.TurnHeld := by
  intro i
  refine ⟨nofun, ?_⟩
  rintro ⟨call, p, hi, hp⟩
  rw [w.call?_start hi] at hp
  cases hp

theorem inLine_start : w.start.InLine := by
  refine ⟨fun i => ⟨nofun, ?_⟩, .nil⟩
  rintro ⟨call, p, hi, hp⟩
  rw [w.call?_start hi] at hp
  cases hp

/-! ## One call after another -/

/-- A call that nobody stands in the way of is over after so many steps, and the others have not moved. -/
theorem serve_replicate (n : Nat) (hs : Alone s i) (hi : s.call? i = some (call, p))
    (hn : p.rank s.config.attempts ≤ n) :
    ∃ q, (w.serve s (List.replicate n i)).call? i = some (call, q) ∧ q.isOver = true ∧
      ∀ j ≠ i, (w.serve s (List.replicate n i)).call? j = s.call? j := by
  induction n generalizing s p with
  | zero => exact ⟨p, hi, Phase.isOver_of_rank (Nat.le_zero.mp hn), fun _ _ => rfl⟩
  | succ n ih =>
    rw [List.replicate_succ, serve, List.foldl_cons]
    cases hp : p.isOver with
    | true =>
      rw [w.advance_of_isOver hi hp]
      exact ih hs hi (by rw [Phase.rank_of_isOver hp]; exact Nat.zero_le n)
    | false =>
      obtain ⟨u, q, ⟨e, -, hprog⟩, heq⟩ := w.advance_of_alone hs hi hp
      -- each step takes the call closer to its end
      have hlt := hprog.rank_lt
      have halone : Alone (u.land i call q) i :=
        ⟨turnHeld_progress hs.turn hi hprog, inLine_progress hs.line hi hprog,
          fun j hj hask => hs.others j hj ((hprog.asks_ne hj).mp hask)⟩
      obtain ⟨q', hq', hover, hsame⟩ := ih halone (hprog.call?_self hi)
        (by rw [land_config, hprog.config]; omega)
      rw [heq]
      exact ⟨q', hq', hover, fun j hj => (hsame j hj).trans (hprog.call?_ne hj)⟩

theorem turnHeld_serve (schedule : List Nat) : (w.serve w.start schedule).TurnHeld :=
  w.serve_keeps w.turnHeld_start
    (fun hs hi ⟨_, _, hp⟩ => turnHeld_progress hs hi hp) schedule

theorem inLine_serve (schedule : List Nat) : (w.serve w.start schedule).InLine :=
  w.serve_keeps w.inLine_start (fun hs hi ⟨_, _, hp⟩ => inLine_progress hs hi hp) schedule

theorem config_serve (schedule : List Nat) : (w.serve w.start schedule).config = w.config :=
  w.serve_keeps (P := fun s => s.config = w.config) rfl
    (fun hs _ ⟨_, _, hp⟩ => by rw [land_config, hp.config, hs]) schedule

/-- The calls stay the same calls. -/
theorem call?_serve (schedule : List Nat) (i : Nat) :
    ((w.serve w.start schedule).call? i).map (·.1) = w.calls[i]? := by
  refine w.serve_keeps (P := fun s => (s.call? i).map (·.1) = w.calls[i]?) ?_ ?_ schedule
  · simp [Session.call?, start, Function.comp_def]
  · intro s j call p u q hs hj hstep
    obtain ⟨e, -, hp⟩ := hstep
    exact (hp.call?_fst hj i).trans hs

/-- In the sequential schedule, the first `k` calls are over before another one begins. -/
theorem serve_oneByOne {k : Nat} (hk : k ≤ w.calls.length) :
    ∀ i call p, (w.serve w.start (w.oneByOne k)).call? i = some (call, p) →
      if i < k then p.isOver = true else p = .ready := by
  induction k with
  | zero => exact fun i call p hi => w.call?_start hi
  | succ k ih =>
    have hbefore := ih (Nat.le_of_succ_le hk)
    have hblock : w.oneByOne (k + 1)
        = w.oneByOne k ++ List.replicate (2 * w.config.attempts + 3) k := by
      simp [oneByOne, List.range_succ, List.flatMap_append]
    rw [hblock, serve_append]
    generalize hs : w.serve w.start (w.oneByOne k) = s at hbefore
    have hready : ∃ call, s.call? k = some (call, .ready) := by
      have hcall := w.call?_serve (w.oneByOne k) k
      rw [hs, List.getElem?_eq_getElem hk] at hcall
      obtain ⟨⟨call, p⟩, hi, -⟩ := Option.map_eq_some_iff.mp hcall
      have hp := hbefore k call p hi
      rw [if_neg (Nat.lt_irrefl k)] at hp
      exact ⟨call, by rw [hi, hp]⟩
    obtain ⟨call, hcall⟩ := hready
    -- those before it are over and those after it have not begun, so nobody else asks
    have halone : Alone s k := by
      refine ⟨hs ▸ w.turnHeld_serve _, hs ▸ w.inLine_serve _, ?_⟩
      rintro j - ⟨callj, p, hj, hask⟩
      have hp := hbefore j callj p hj
      split at hp
      · cases p <;> simp [Phase.isOver, Phase.isAsking] at hp hask
      · rw [hp] at hask
        cases hask
    obtain ⟨q, hq, hover, hsame⟩ := w.serve_replicate (2 * w.config.attempts + 3) halone hcall
      (by rw [← hs, config_serve]; exact Nat.le_refl _)
    intro i calli p hi
    by_cases hik : i = k
    · subst hik
      rw [hq] at hi
      cases hi
      rwa [if_pos (Nat.lt_succ_self i)]
    · rw [hsame i hik] at hi
      have hp := hbefore i calli p hi
      by_cases hlt : i < k
      · rw [if_pos hlt] at hp
        rwa [if_pos (Nat.lt_succ_of_lt hlt)]
      · rw [if_neg hlt] at hp
        rwa [if_neg (by omega)]

end Scenario
end PolicyGate
