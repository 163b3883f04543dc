import PolicyGate.Proofs.Consent.Served
import PolicyGate.Proofs.Consent.Schedule

/-!
# Where the calls of a loop wait

A loop keeps two accounts of a call. The session has its phase, and the loop has what the call waits for, the
line and the queue of those who want to ask. Without a time limit for the answers the two agree after every
turn (`Loop.Orderly`): a call waits for what its phase says, and one that waits for its turn in the line is
in the line, so it gets its turn.

While a call has its turn the two disagree for this call, and only for this one. So the invariant has a
parameter, the call that is on the move, and each thing that happens during a turn keeps it and leaves the
other calls where they are (`Loop.Moves`). At the end of its turn the call has a place again (`Loop.Settles`).
-/

namespace PolicyGate

/-! ## What an event changes of the calls -/

/-- The phases in which a call does nothing of its own: it has yet to begin, or its prompt is being read. -/
def Phase.isResting : Phase → Bool
  | .ready | .asking _ _ true => true
  | _ => false

@[simp] theorem Phase.isResting_following (mode : ConsentMode) (call : Call) (d : Decision) :
    (following mode call d).isResting = false := by
  cases mode <;> rfl

namespace Session

variable {s u : Session} {i : Nat} {call : Call} {e : Event} {p q : Phase}

/-- Unless its prompt is shown, a call that makes progress goes on until it has nothing to do. -/
theorem Progress.not_resting (h : Progress s i call e p u q) (he : e ≠ .show_ i) :
    q.isResting = false := by
  cases h with
  | show_ => exact absurd rfl he
  | late | pass | settle | decline => exact Phase.isResting_following ..
  | _ => rfl

/-- A cancellation is the end of the call that it hits. -/
theorem Progress.isOver_of_cancel (h : Progress s i call (.cancel i) p u q) : q.isOver = true := by
  cases h with
  | decline hg => cases hg
  | abandon | collide | cancelReady | cancelQueued | cancelRunning => rfl

/-- A new call aside, an event touches no call but its own. -/
theorem call?_after_ne (he : e.subject? ≠ some i) (hnew : ∀ call, e ≠ .arrive call) :
    (s.after e).call? i = s.call? i := by
  rcases s.after_cases e with h | ⟨h, -⟩
  · generalize s.after e = t at h
    cases h with
    | @call k call e p u q hk hp =>
      refine hp.call?_ne fun hik => he ?_
      rw [hp.subject?, hik]
    | arrive call => exact absurd rfl (hnew call)
    | speak _ _ | reload _ => rfl
  · rw [h]

theorem calls_length_after (hnew : ∀ call, e ≠ .arrive call) :
    (s.after e).calls.length = s.calls.length := by
  rcases s.after_cases e with h | ⟨h, -⟩
  · generalize s.after e = t at h
    cases h with
    | call _ hp => rw [land_calls, List.length_set, hp.calls]
    | arrive call => exact absurd rfl (hnew call)
    | speak _ _ | reload _ => rfl
  · rw [h]

/-- An event of a call that fits makes the call progress. -/
theorem exists_progress_of_step (hi : s.call? i = some (call, p)) (he : e.subject? = some i)
    (hstep : (s.step e).isSome = true) :
    ∃ u q, Progress s i call e p u q ∧ s.after e = u.land i call q := by
  obtain ⟨t, ht⟩ := Option.isSome_iff_exists.mp hstep
  obtain ⟨call', p', u, q, hi', hp, rfl⟩ := (change_of_subject he ht).exists_progress he
  rw [hi] at hi'
  cases hi'
  exact ⟨u, q, hp, by rw [Session.after, ht]; rfl⟩

/-- Where a call stands after an event of its own that fits, other than that its prompt is shown. -/
theorem call?_after_self (hi : s.call? i = some (call, p)) (he : e.subject? = some i)
    (hshow : e ≠ .show_ i) (hstep : (s.step e).isSome = true) :
    ∃ q, (s.after e).call? i = some (call, q) ∧ q.isResting = false := by
  obtain ⟨u, q, hp, heq⟩ := exists_progress_of_step hi he hstep
  rw [heq]
  exact ⟨q, hp.call?_self hi, hp.not_resting hshow⟩

end Session

/-! ## Places -/

/-- The mark in the queue of a call that waits for this: whether it need not be called any more. -/
def Wait.mark? : Wait → Option Bool
  | .inQueue => some false
  | .called | .leaving => some true
  | _ => none

/-- What waits for this waits for nothing in the line. -/
def Wait.isIdle : Wait → Bool
  | .inQueue | .deaf | .over => true
  | _ => false

theorem Wait.mark?_ne_of_isIdle {w : Wait} (h : w.isIdle = true) : w.mark? ≠ some true := by
  cases w <;> simp_all [Wait.mark?, Wait.isIdle]

namespace Loop

open Session

/-- What a call in a phase waits for if time is not limited. If that is its turn, it is in the line. -/
inductive Place (line : List Job) (i : Nat) : Phase → Wait → Prop
  | starting (h : .call i ∈ line) : Place line i .ready .starting
  | inQueue {d} : Place line i (.queued d) .inQueue
  | called {d} (h : .call i ∈ line) : Place line i (.queued d) .called
  | leaving {f} (h : .call i ∈ line) : Place line i (.failed f) .leaving
  | listening {d attempt turns ending} (h : .call i ∈ line) :
      Place line i (.asking d attempt true) (.listening turns ending)
  | deaf {d attempt} : Place line i (.asking d attempt true) .deaf
  | roused {d attempt} (h : .call i ∈ line) : Place line i (.asking d attempt true) .roused
  | executing {d turns answer} (h : .call i ∈ line) : Place line i (.running d) (.executing turns answer)
  | ended {p} (hp : p.isOver = true) : Place line i p .over

theorem Place.mono {line line' : List Job} {i : Nat} {p : Phase} {w : Wait} (h : Place line i p w)
    (hline : .call i ∈ line → .call i ∈ line') : Place line' i p w := by
  cases h with
  | starting h => exact .starting (hline h)
  | inQueue => exact .inQueue
  | called h => exact .called (hline h)
  | leaving h => exact .leaving (hline h)
  | listening h => exact .listening (hline h)
  | deaf => exact .deaf
  | roused h => exact .roused (hline h)
  | executing h => exact .executing (hline h)
  | ended hp => exact .ended hp

/-- Every call is in its place, up to one that may be on the move. -/
structure Orderly (moving : Option Nat) (l : Loop) : Prop where
  untimed : l.limit = none
  length : l.threads.length = l.session.calls.length
  placed : ∀ {i call p}, moving ≠ some i → l.session.call? i = some (call, p) →
    Place l.line i p (l.thread i).wait
  waiting : ∀ {i b}, (i, b) ∈ l.waiters → (l.thread i).wait.mark? = some b
  enlisted : ∀ {i b}, moving ≠ some i → (l.thread i).wait.mark? = some b → (i, b) ∈ l.waiters
  nodup : (l.waiters.map (·.1)).Nodup
  left : ∀ {i b}, moving = some i → (i, b) ∉ l.waiters

/-- The accounts of call `i` agree: it waits for what its phase says, and the queue has its mark. -/
structure Consistent (l : Loop) (i : Nat) : Prop where
  place : ∀ {call p}, l.session.call? i = some (call, p) → Place l.line i p (l.thread i).wait
  mark : ∀ b, (i, b) ∈ l.waiters ↔ (l.thread i).wait.mark? = some b

/-- Call `i` stays where it is while another has its turn, except that it may be called from the queue. -/
structure Beside (i : Nat) (l l' : Loop) : Prop where
  call : l'.session.call? i = l.session.call? i
  line : ∃ more, l'.line = l.line ++ more
  thread : l'.thread i = l.thread i ∨
    (l.thread i).wait = .inQueue ∧ l'.thread i = ⟨.called, false⟩ ∧ .call i ∈ l'.line

/-- What happens keeps the calls in their places and touches only the call that is on the move. -/
def Moves (moving : Option Nat) (l l' : Loop) : Prop :=
  l.Orderly moving → l'.Orderly moving ∧ ∀ i, moving ≠ some i → Beside i l l'

variable {l l' l'' : Loop} {moving : Option Nat} {i j : Nat}

/-- Between turns every call has a place. -/
theorem Orderly.place {call : Call} {p : Phase} (h : l.Orderly none)
    (hi : l.session.call? i = some (call, p)) : Place l.line i p (l.thread i).wait :=
  h.placed (Option.some_ne_none i).symm hi

/-- And the queue has whoever waits for its turn. -/
theorem Orderly.mem_waiters {b : Bool} (h : l.Orderly none) (hmark : (l.thread i).wait.mark? = some b) :
    (i, b) ∈ l.waiters :=
  h.enlisted (Option.some_ne_none i).symm hmark

theorem Orderly.consistent (h : l.Orderly moving) (hi : moving ≠ some i) : l.Consistent i :=
  ⟨h.placed hi, fun _ => ⟨h.waiting, h.enlisted hi⟩⟩

/-- So a loop is orderly again once it is known of each call whether it is on the move. -/
theorem Orderly.of_consistent (huntimed : l.limit = none)
    (hlength : l.threads.length = l.session.calls.length) (hnodup : (l.waiters.map (·.1)).Nodup)
    (hothers : ∀ i, moving ≠ some i → l.Consistent i)
    (hleft : ∀ i b, moving = some i → (i, b) ∉ l.waiters) : l.Orderly moving := by
  refine ⟨huntimed, hlength, fun hi => (hothers _ hi).place, fun {i b} hb => ?_,
    fun hi => ((hothers _ hi).mark _).mpr, hnodup, hleft _ _⟩
  by_cases hi : moving = some i
  · exact absurd hb (hleft i b hi)
  · exact ((hothers i hi).mark b).mp hb

theorem Beside.refl (i : Nat) (l : Loop) : Beside i l l := ⟨rfl, ⟨[], by simp⟩, .inl rfl⟩

theorem Beside.mem_line (h : Beside i l l') {job : Job} (hjob : job ∈ l.line) : job ∈ l'.line := by
  obtain ⟨more, hline⟩ := h.line
  rw [hline]
  exact List.mem_append_left _ hjob

theorem Beside.trans (h : Beside i l l') (h' : Beside i l' l'') : Beside i l l'' := by
  refine ⟨h'.call.trans h.call, ?_, ?_⟩
  · obtain ⟨more, hline⟩ := h.line
    obtain ⟨more', hline'⟩ := h'.line
    exact ⟨more ++ more', by rw [hline', hline, List.append_assoc]⟩
  · rcases h.thread with hsame | ⟨hwait, hcalled, hmem⟩
    · rcases h'.thread with hsame' | ⟨hwait', hcalled', hmem'⟩
      · exact .inl (hsame'.trans hsame)
      · exact .inr ⟨hsame ▸ hwait', hcalled', hmem'⟩
    · rcases h'.thread with hsame' | ⟨hwait', -⟩
      · exact .inr ⟨hwait, hsame'.trans hcalled, h'.mem_line hmem⟩
      · -- a call is called only once
        rw [hcalled] at hwait'
        cases hwait'

/-- A call that has a place keeps one. -/
theorem Beside.placed (h : Beside i l l') {p : Phase} (hp : Place l.line i p (l.thread i).wait) :
    Place l'.line i p (l'.thread i).wait := by
  rcases h.thread with hsame | ⟨hwait, hcalled, hmem⟩
  · rw [hsame]
    exact hp.mono h.mem_line
  · rw [hwait] at hp
    rw [hcalled]
    cases hp with
    | inQueue => exact .called hmem

/-- Beside another, a call stays consistent if the queue has kept or changed its mark as it was called. -/
theorem Consistent.beside (h : l.Consistent i) (hbeside : Beside i l l')
    (hmark : ∀ b, (i, b) ∈ l'.waiters ↔ (l'.thread i).wait.mark? = some b) : l'.Consistent i := by
  refine ⟨fun {call p} hi => ?_, hmark⟩
  rw [hbeside.call] at hi
  exact hbeside.placed (h.place hi)

/-- A call whose thread and mark nobody touches stays consistent. -/
theorem Consistent.untouched (h : l.Consistent i) (hcall : l'.session.call? i = l.session.call? i)
    (hthread : l'.thread i = l.thread i) (hline : ∃ more, l'.line = l.line ++ more)
    (hmark : ∀ b, (i, b) ∈ l'.waiters ↔ (i, b) ∈ l.waiters) : l'.Consistent i := by
  refine h.beside ⟨hcall, hline, .inl hthread⟩ fun b => ?_
  rw [hmark, hthread, h.mark]

theorem Moves.refl (moving : Option Nat) (l : Loop) : Moves moving l l :=
  fun h => ⟨h, fun i _ => .refl i l⟩

theorem Moves.trans (h : Moves moving l l') (h' : Moves moving l' l'') : Moves moving l l'' := by
  intro hl
  obtain ⟨hl', hbeside⟩ := h hl
  obtain ⟨hl'', hbeside'⟩ := h' hl'
  exact ⟨hl'', fun i hi => (hbeside i hi).trans (hbeside' i hi)⟩

/-! ## Threads -/

theorem thread_set_ne (hij : i ≠ j) (w : Wait) : (l.set j w).thread i = l.thread i := by
  simp [thread, set, List.getD_eq_getElem?_getD, List.getElem?_set_ne (Ne.symm hij)]

theorem thread_set_self (hi : i < l.threads.length) (w : Wait) : (l.set i w).thread i = ⟨w, false⟩ := by
  simp [thread, set, List.getD_eq_getElem?_getD, List.getElem?_set_self hi]

/-- A call that waits for something is one of the loop. -/
theorem lt_length_of_wait (h : (l.thread i).wait ≠ .over) : i < l.threads.length := by
  refine Nat.lt_of_not_le fun hle => h ?_
  simp [thread, List.getD_eq_getElem?_getD, List.getElem?_eq_none hle]

theorem lt_length_of_mark {b : Bool} (h : (l.thread i).wait.mark? = some b) : i < l.threads.length := by
  refine lt_length_of_wait fun hw => ?_
  rw [hw] at h
  cases h

/-- Who has yet to be called is in the queue. -/
theorem wait_of_mark_false (h : (l.thread i).wait.mark? = some false) : (l.thread i).wait = .inQueue := by
  cases hw : (l.thread i).wait <;> simp_all [Wait.mark?]

theorem Orderly.lt_length (h : l.Orderly moving) {x : Call × Phase} (hi : l.session.call? i = some x) :
    i < l.threads.length := by
  obtain ⟨hlt, -⟩ := List.getElem?_eq_some_iff.mp hi
  rw [h.length]
  exact hlt

/-! ## What happens during a turn -/

/-- Scripts that are used up are of no account to the calls. -/
theorem moves_of_eq (hs : l'.session = l.session) (hthreads : l'.threads = l.threads)
    (hline : l'.line = l.line) (hwaiters : l'.waiters = l.waiters) (hlimit : l'.limit = l.limit) :
    Moves moving l l' := by
  have hthread : ∀ i, l'.thread i = l.thread i := fun i => by rw [thread, thread, hthreads]
  intro h
  refine ⟨⟨hlimit.trans h.untimed, ?_, ?_, ?_, ?_, ?_, ?_⟩, fun i _ => ?_⟩
  · rw [hthreads, hs, h.length]
  · intro i call p hi hcall
    rw [hthread, hline]
    exact h.placed hi (hs ▸ hcall)
  · intro i b hb
    rw [hthread]
    exact h.waiting (hwaiters ▸ hb)
  · intro i b hi hmark
    rw [hthread] at hmark
    rw [hwaiters]
    exact h.enlisted hi hmark
  · rw [hwaiters]
    exact h.nodup
  · intro i b hi
    rw [hwaiters]
    exact h.left hi
  · exact ⟨by rw [hs], ⟨[], by simp [hline]⟩, .inl (hthread i)⟩

/-- An event belongs to the call that is on the move, or to no call. -/
theorem moves_happen {e : Event} (he : ∀ i, e.subject? = some i → moving = some i)
    (hnew : ∀ call, e ≠ .arrive call) : Moves moving l (l.happen e) := by
  have hcall : ∀ i, moving ≠ some i → (l.happen e).session.call? i = l.session.call? i :=
    fun i hi => call?_after_ne (fun hsub => hi (he i hsub)) hnew
  intro h
  refine ⟨⟨h.untimed, ?_, ?_, h.waiting, h.enlisted, h.nodup, h.left⟩, fun i hi => ?_⟩
  · rw [happen, calls_length_after hnew, h.length]
  · intro i call p hi hc
    rw [hcall i hi] at hc
    exact h.placed hi hc
  · exact ⟨hcall i hi, ⟨[], by simp [happen]⟩, .inl rfl⟩

theorem moves_set (w : Wait) : Moves (some j) l (l.set j w) := by
  have hthread : ∀ i, some j ≠ some i → (l.set j w).thread i = l.thread i :=
    fun i hi => thread_set_ne (fun hij => hi (congrArg some hij.symm)) w
  intro h
  refine ⟨⟨h.untimed, ?_, ?_, ?_, ?_, h.nodup, h.left⟩, fun i hi => ?_⟩
  · rw [set, List.length_set, h.length]
  · intro i call p hi hcall
    rw [hthread i hi]
    exact h.placed hi hcall
  · intro i b hb
    rw [hthread i fun hji => h.left hji hb]
    exact h.waiting hb
  · intro i b hi hmark
    rw [hthread i hi] at hmark
    exact h.enlisted hi hmark
  · exact ⟨rfl, ⟨[], by simp [set]⟩, .inl (hthread i hi)⟩

theorem moves_enqueue (job : Job) : Moves moving l (l.enqueue job) := by
  intro h
  refine ⟨⟨h.untimed, h.length, fun hi hcall => ?_, h.waiting, h.enlisted, h.nodup, h.left⟩,
    fun i _ => ?_⟩
  · exact (h.placed hi hcall).mono fun hmem => List.mem_append_left _ hmem
  · exact ⟨rfl, ⟨[job], rfl⟩, .inl rfl⟩

/-- The first of the queue is called: it waits for its turn in the line now. -/
theorem moves_callFirst : Moves moving l l.callFirst := by
  unfold callFirst
  split
  · rename_i k rest hwaiters
    intro h
    have hk : (k, false) ∈ l.waiters := by rw [hwaiters]; exact List.mem_cons_self
    have hwait : (l.thread k).wait = .inQueue := wait_of_mark_false (h.waiting hk)
    have hlt : k < l.threads.length := lt_length_of_mark (h.waiting hk)
    have hnodup : (k :: rest.map (·.1)).Nodup := by
      rw [← List.map_cons (f := Prod.fst) (a := (k, false)), ← hwaiters]
      exact h.nodup
    have hfresh : ∀ b, (k, b) ∉ rest := fun b hb =>
      (List.nodup_cons.mp hnodup).1 (List.mem_map.mpr ⟨(k, b), hb, rfl⟩)
    generalize hl' : ({ l with waiters := (k, true) :: rest }.set k .called).enqueue (.call k) = l'
    have hself : l'.thread k = ⟨.called, false⟩ := by
      rw [← hl']
      exact thread_set_self hlt .called
    have hother : ∀ i ≠ k, l'.thread i = l.thread i := by
      intro i hik
      rw [← hl']
      exact thread_set_ne hik .called
    have hline : l'.line = l.line ++ [.call k] := by rw [← hl']; rfl
    have hsession : l'.session = l.session := by rw [← hl']; rfl
    have hcalled : l'.waiters = (k, true) :: rest := by rw [← hl']; rfl
    have hmark : ∀ i ≠ k, ∀ b, (i, b) ∈ l'.waiters ↔ (i, b) ∈ l.waiters := by
      intro i hik b
      simp [hcalled, hwaiters, hik]
    have hbeside : ∀ i, Beside i l l' := by
      intro i
      refine ⟨by rw [hsession], ⟨_, hline⟩, ?_⟩
      by_cases hik : i = k
      · subst hik
        exact .inr ⟨hwait, hself, by simp [hline]⟩
      · exact .inl (hother i hik)
    refine ⟨.of_consistent ?_ ?_ ?_ (fun i hi => ?_) fun i b hi => ?_, fun i _ => hbeside i⟩
    · rw [← hl']
      exact h.untimed
    · rw [hsession, ← h.length, ← hl']
      simp [enqueue, set]
    · rw [hcalled]
      exact hnodup
    · refine (h.consistent hi).beside (hbeside i) fun b => ?_
      by_cases hik : i = k
      · subst hik
        simp [hself, hcalled, hfresh, Wait.mark?, eq_comm]
      · rw [hmark i hik, hother i hik, (h.consistent hi).mark]
    · -- the first of the queue is not the one on the move
      rw [hmark i fun hik => h.left hi (hik ▸ hk)]
      exact h.left hi
  · exact .refl moving l

/-- Calling the next one, or not. -/
theorem moves_ite_callFirst (free : Bool) : Moves moving l (if free then l.callFirst else l) := by
  split
  · exact moves_callFirst
  · exact .refl moving l

theorem moves_advance {e : Event} (he : e.subject? = some j) : Moves (some j) l (l.advance e) := by
  have hnew : ∀ call, e ≠ .arrive call := by
    rintro call rfl
    cases he
  exact (moves_happen (fun _ hi => he.symm.trans hi) hnew).trans (moves_ite_callFirst _)

theorem moves_interject (x : Interjection) : Moves moving l (l.interject x) := by
  cases x with
  | decide raw | withdraw | reload rules => exact moves_happen (by simp [Event.subject?]) (by simp)

theorem moves_interjections (xs : List Interjection) : Moves moving l (xs.foldl interject l) := by
  induction xs generalizing l with
  | nil => exact .refl moving l
  | cons x xs ih => exact (moves_interject x).trans ih

theorem moves_nextReply : Moves moving l l.nextReply.1 := by
  unfold nextReply
  split
  · exact .refl moving l
  · rename_i script rest _
    have hused : Moves moving l { l with replies := rest } := moves_of_eq rfl rfl rfl rfl rfl
    exact hused.trans (moves_interjections script.before)

theorem moves_present : Moves (some j) l (l.present j).1 := by
  have hshow : Moves (some j) l (l.happen (.show_ j)) := moves_happen (fun _ hi => hi) (by simp)
  exact hshow.trans moves_nextReply

theorem moves_nextRun : Moves moving l l.nextRun.2 := by
  unfold nextRun
  split
  · exact .refl moving l
  · exact moves_of_eq rfl rfl rfl rfl rfl

/-! ## The end of a turn -/

/-- Call `j` has a place again, as all others have, and they are where they were. -/
def Settles (j : Nat) (l l' : Loop) : Prop := l'.Orderly none ∧ ∀ i ≠ j, Beside i l l'

variable {call : Call} {p : Phase}

theorem Moves.settles (h : Moves (some j) l l') (hl : l.Orderly (some j))
    (h' : l'.Orderly (some j) → Settles j l' l'') : Settles j l l'' := by
  obtain ⟨hl', hbeside⟩ := h hl
  obtain ⟨hl'', hbeside'⟩ := h' hl'
  refine ⟨hl'', fun i hi => (hbeside i ?_).trans (hbeside' i hi)⟩
  exact fun hij => hi (Option.some.inj hij).symm

/-- What touches call `j` alone leaves every call in its place if it leaves `j` in one. -/
theorem Orderly.settles_of_untouched (hl : l.Orderly moving) (hmoving : ∀ i, moving = some i → i = j)
    (hlimit : l'.limit = l.limit) (hlength : l'.threads.length = l'.session.calls.length)
    (hnodup : (l'.waiters.map (·.1)).Nodup) (hline : ∃ more, l'.line = l.line ++ more)
    (hcall : ∀ i ≠ j, l'.session.call? i = l.session.call? i)
    (hthread : ∀ i ≠ j, l'.thread i = l.thread i)
    (hmark : ∀ i ≠ j, ∀ b, (i, b) ∈ l'.waiters ↔ (i, b) ∈ l.waiters)
    (hj : l'.Consistent j) : Settles j l l' := by
  refine ⟨.of_consistent (hlimit.trans hl.untimed) hlength hnodup (fun i _ => ?_) (by simp),
    fun i hij => ⟨hcall i hij, hline, .inl (hthread i hij)⟩⟩
  by_cases hij : i = j
  · exact hij ▸ hj
  · exact (hl.consistent fun hi => hij (hmoving i hi)).untouched (hcall i hij) (hthread i hij) hline
      (hmark i hij)

/-- A call that has a place is no longer on the move. -/
theorem Orderly.settles (hl : l.Orderly (some j)) (hj : l.session.call? j = some (call, p))
    (hplace : Place l.line j p (l.thread j).wait) (hmark : (l.thread j).wait.mark? = none) :
    Settles j l l := by
  refine ⟨⟨hl.untimed, hl.length, ?_, hl.waiting, ?_, hl.nodup, by simp⟩, fun i _ => .refl i l⟩
  · intro i call' p' _ hi
    by_cases hij : i = j
    · subst hij
      rw [hj] at hi
      cases hi
      exact hplace
    · exact hl.placed (fun hji => hij (Option.some.inj hji).symm) hi
  · intro i b _ hb
    refine hl.enlisted (fun hji => ?_) hb
    obtain rfl := Option.some.inj hji
    rw [hmark] at hb
    cases hb

/-- The turn ends with the call waiting for something that comes from elsewhere. -/
theorem Orderly.settles_set {w : Wait} (hl : l.Orderly (some j))
    (hj : l.session.call? j = some (call, p)) (hplace : Place l.line j p w) (hmark : w.mark? = none) :
    Settles j l (l.set j w) := by
  have hthread : (l.set j w).thread j = ⟨w, false⟩ := thread_set_self (hl.lt_length hj) w
  refine (moves_set w).settles hl fun hset => hset.settles hj ?_ ?_
  · rw [hthread]
    exact hplace
  · rw [hthread]
    exact hmark

/-- The turn ends with the call back in the line. -/
theorem Orderly.settles_enqueue {w : Wait} (hl : l.Orderly (some j))
    (hj : l.session.call? j = some (call, p)) (hplace : Place (l.line ++ [.call j]) j p w)
    (hmark : w.mark? = none) : Settles j l ((l.set j w).enqueue (.call j)) := by
  have hthread : ((l.set j w).enqueue (.call j)).thread j = ⟨w, false⟩ :=
    thread_set_self (hl.lt_length hj) w
  refine ((moves_set w).trans (moves_enqueue (.call j))).settles hl fun hset => hset.settles hj ?_ ?_
  · rw [hthread]
    exact hplace
  · rw [hthread]
    exact hmark

/-- The turn ends in the queue of those who want to ask. -/
theorem Orderly.settles_inQueue {d : Decision} (hl : l.Orderly (some j))
    (hj : l.session.call? j = some (call, .queued d)) :
    Settles j l { l.set j .inQueue with waiters := l.waiters ++ [(j, false)] } := by
  generalize hl' : ({ l.set j .inQueue with waiters := l.waiters ++ [(j, false)] } : Loop) = l'
  have hself : l'.thread j = ⟨.inQueue, false⟩ := by
    rw [← hl']
    exact thread_set_self (hl.lt_length hj) .inQueue
  have hsession : l'.session = l.session := by rw [← hl']; rfl
  have hwaiters : l'.waiters = l.waiters ++ [(j, false)] := by rw [← hl']
  -- the call was not in the queue while it was on the move
  have hleft : ∀ b, (j, b) ∉ l.waiters := fun b => hl.left rfl
  refine hl.settles_of_untouched (fun i hi => (Option.some.inj hi).symm) ?_ ?_ ?_ ⟨[], ?_⟩
    (fun i _ => ?_) (fun i hij => ?_) (fun i hij b => ?_) ⟨fun {call' p'} hi => ?_, fun b => ?_⟩
  · rw [← hl']
    rfl
  · rw [hsession, ← hl.length, ← hl']
    simp [set]
  · rw [hwaiters, List.map_append, List.nodup_append]
    refine ⟨hl.nodup, by simp, fun k hk k' hk' heq => ?_⟩
    obtain ⟨⟨k'', b⟩, hmem, rfl⟩ := List.mem_map.mp hk
    rw [List.mem_singleton.mp hk'] at heq
    exact hl.left (congrArg some heq.symm) hmem
  · rw [← hl']
    simp [set]
  · rw [hsession]
  · rw [← hl']
    exact thread_set_ne hij .inQueue
  · simp [hwaiters, hij]
  · rw [hsession, hj] at hi
    cases hi
    rw [hself]
    exact .inQueue
  · simp [hself, hwaiters, hleft, Wait.mark?, eq_comm]

/-! ### How long a turn may take -/

@[simp] theorem replies_callFirst (l : Loop) : l.callFirst.replies = l.replies := by
  unfold callFirst
  split <;> rfl

/-- Calling the next one, or not, is no matter of the session and takes no script. -/
theorem ite_callFirst_same (l : Loop) (free : Bool) :
    (if free then l.callFirst else l).session = l.session ∧
      (if free then l.callFirst else l).replies = l.replies := by
  cases free with
  | true => exact ⟨session_callFirst l, replies_callFirst l⟩
  | false => exact ⟨rfl, rfl⟩

@[simp] theorem session_advance (l : Loop) (e : Event) :
    (l.advance e).session = l.session.after e := (ite_callFirst_same (l.happen e) _).1

@[simp] theorem replies_advance (l : Loop) (e : Event) : (l.advance e).replies = l.replies :=
  (ite_callFirst_same (l.happen e) _).2

theorem interject_same (x : Interjection) (i : Nat) :
    (l.interject x).session.call? i = l.session.call? i ∧ (l.interject x).replies = l.replies := by
  have hsame : ∀ e : Event, e.subject? = none → (∀ call, e ≠ .arrive call) →
      (l.happen e).session.call? i = l.session.call? i ∧ (l.happen e).replies = l.replies := by
    intro e he hnew
    exact ⟨call?_after_ne (by simp [he]) hnew, rfl⟩
  cases x with
  | decide raw => exact hsame (.decide raw) rfl (by simp)
  | withdraw => exact hsame .withdraw rfl (by simp)
  | reload rules => exact hsame (.reload rules) rfl (by simp)

theorem interjections_same (xs : List Interjection) (i : Nat) :
    (xs.foldl interject l).session.call? i = l.session.call? i ∧
      (xs.foldl interject l).replies = l.replies := by
  induction xs generalizing l with
  | nil => exact ⟨rfl, rfl⟩
  | cons x xs ih =>
    obtain ⟨hcall, hreplies⟩ := interject_same (l := l) x i
    obtain ⟨hcall', hreplies'⟩ := ih (l := l.interject x)
    exact ⟨hcall'.trans hcall, hreplies'.trans hreplies⟩

/-- A prompt is shown by a script of its own, unless the scripts have run out. -/
theorem present_cases {d : Decision} {attempt : Nat}
    (hj : l.session.call? j = some (call, .asking d attempt false)) :
    (l.present j).1.session.call? j = some (call, .asking d attempt true) ∧
      ((l.present j).1.replies.length + 1 = l.replies.length ∨
        ∃ message, (l.present j).2 = (0, .fails message)) := by
  have hshown : (l.happen (.show_ j)).session.call? j = some (call, .asking d attempt true) := by
    obtain ⟨u, q, hp, heq⟩ := exists_progress_of_step (e := .show_ j) hj rfl (by simp [step, hj])
    rw [happen, heq, hp.call?_self hj]
    cases hp with
    | show_ => rfl
    | decline hg => cases hg
    | collide hg => rcases hg with hg | hg <;> cases hg
  have hreplies : (l.happen (.show_ j)).replies = l.replies := rfl
  unfold present nextReply
  split
  · exact ⟨hshown, .inr ⟨_, rfl⟩⟩
  · rename_i script rest hscripts
    obtain ⟨hcall, hrest⟩ :=
      interjections_same (l := { l.happen (.show_ j) with replies := rest }) script.before j
    refine ⟨hcall.trans hshown, .inl ?_⟩
    rw [← hreplies, hscripts]
    exact congrArg (·.length + 1) hrest

/-- The steps that a call may take in a turn, by its phase. -/
def steps (l : Loop) : Phase → Nat
  | .asking _ _ false => l.replies.length + 3
  | .running _ => 2
  | _ => 1

theorem steps_pos (l : Loop) (p : Phase) : 1 ≤ l.steps p := by
  unfold steps
  split <;> omega

theorem steps_le (l : Loop) (p : Phase) : l.steps p ≤ l.replies.length + 3 := by
  unfold steps
  split <;> omega

/-! ### Going on until there is nothing to do -/

/-- The end of an asking fits a call whose prompt is shown. -/
theorem step_of_ending {d : Decision} {attempt : Nat} {ending : ReplyEnding} {e : Event} {s : Session}
    (hj : s.call? j = some (call, .asking d attempt true)) (he : ending.event j = some e) :
    e.subject? = some j ∧ e ≠ .show_ j ∧ (s.step e).isSome = true := by
  cases ending with
  | silence => cases he
  | reply raw | cancelled | timeOut | fails message =>
    obtain rfl := Option.some.inj he
    exact ⟨rfl, by simp, by simp [step, hj]⟩

/-- Wherever a call goes on from, it has a place when it stops. -/
theorem settle_settles (fuel : Nat) (hl : l.Orderly (some j)) (hj : l.session.call? j = some (call, p))
    (hp : p.isResting = false) (hfuel : l.steps p ≤ fuel) : Settles j l (settle j fuel l) := by
  induction fuel generalizing l p with
  | zero => exact absurd (Nat.le_trans (l.steps_pos p) hfuel) (Nat.not_succ_le_zero 0)
  | succ fuel ih =>
    cases p with
    | ready => cases hp
    | queued d =>
      simp only [settle, hj]
      exact hl.settles_inQueue hj
    | asking d attempt shown =>
      cases shown with
      | true => cases hp
      | false =>
        have hmoves := moves_present (j := j) (l := l)
        obtain ⟨hshown, hreplies⟩ := present_cases hj
        simp only [settle, hj, hl.untimed]
        simp only [steps] at hfuel
        rcases hpresent : l.present j with ⟨l', turns, ending⟩
        rw [hpresent] at hmoves hshown hreplies
        refine hmoves.settles hl fun hl' => ?_
        cases turns with
        | zero =>
          cases he : ending.event j with
          | none =>
            simp only [he]
            exact hl'.settles_set hshown .deaf rfl
          | some e =>
            simp only [he]
            obtain ⟨hsub, hshow, hstep⟩ := step_of_ending hshown he
            obtain ⟨q, hq, hrest⟩ := call?_after_self hshown hsub hshow hstep
            refine (moves_advance hsub).settles hl' fun hnext => ih hnext (by simpa using hq) hrest ?_
            rcases hreplies with hused | ⟨message, hfails⟩
            · -- a script was used up, so one attempt less can follow
              have hle := steps_le (l'.advance e) q
              rw [replies_advance] at hle
              dsimp only at hused
              omega
            · -- without a script the prompter fails, and the call is over
              obtain rfl : ending = .fails message := by simpa using hfails
              obtain rfl := Option.some.inj he
              obtain ⟨u, q', hprog, heq⟩ := exists_progress_of_step hshown hsub hstep
              rw [heq, hprog.call?_self hshown] at hq
              cases hq
              cases hprog with
              | promptFails => exact Nat.le_trans (by simp [steps]) (Nat.le_of_succ_le_succ hfuel)
              | decline hg => cases hg
              | collide hg => rcases hg with hg | hg <;> cases hg
        | succ turns => exact hl'.settles_enqueue hshown (.listening (by simp)) rfl
    | running d =>
      have hmoves : Moves (some j) l l.nextRun.2 := moves_nextRun
      have hsession := session_nextRun l
      simp only [settle, hj]
      simp only [steps] at hfuel
      rcases hrun : l.nextRun with ⟨⟨turns, answer⟩, l'⟩
      rw [hrun] at hmoves hsession
      have hj' : l'.session.call? j = some (call, .running d) := by rw [← hj, ← hsession]
      refine hmoves.settles hl fun hl' => ?_
      cases turns with
      | zero =>
        show Settles j l' (settle j fuel (l'.advance (.finish j answer)))
        obtain ⟨u, q, hprog, heq⟩ :=
          exists_progress_of_step (e := .finish j answer) hj' rfl (by simp [step, hj'])
        have hq : (l'.advance (.finish j answer)).session.call? j = some (call, q) := by
          rw [session_advance, heq]
          exact hprog.call?_self hj'
        refine (moves_advance rfl).settles hl' fun hnext => ih hnext hq (hprog.not_resting (by simp)) ?_
        cases hprog with
        | finish => exact Nat.le_of_succ_le_succ hfuel
      | succ turns => exact hl'.settles_enqueue hj' (.executing (by simp)) rfl
    | done res | failed f =>
      simp only [settle, hj]
      exact hl.settles_set hj (.ended rfl) rfl

/-- A call that goes on after an event of its own. -/
theorem proceed_settles {e : Event} {q : Phase} (hl : l.Orderly (some j)) (he : e.subject? = some j)
    (hq : (l.session.after e).call? j = some (call, q)) (hrest : q.isResting = false) :
    Settles j l (l.proceed j e) := by
  refine (moves_advance he).settles hl fun hnext => settle_settles _ hnext (by simpa using hq) hrest ?_
  exact Nat.le_succ_of_le (steps_le _ q)

/-- The event fits where the call stands. -/
theorem proceed_settles_of_step {e : Event} (hl : l.Orderly (some j))
    (hj : l.session.call? j = some (call, p)) (he : e.subject? = some j) (hshow : e ≠ .show_ j)
    (hstep : (l.session.step e).isSome = true) : Settles j l (l.proceed j e) := by
  obtain ⟨q, hq, hrest⟩ := call?_after_self hj he hshow hstep
  exact proceed_settles hl he hq hrest

/-! ## Turns -/

theorem Place.of_isIdle {line line' : List Job} {w : Wait} (h : Place line i p w) (hw : w.isIdle = true) :
    Place line' i p w := by
  cases h with
  | inQueue => exact .inQueue
  | deaf => exact .deaf
  | ended hp => exact .ended hp
  | _ => cases hw

/-- When a job is taken from the line, only a call whose turn it is can be out of place. -/
theorem Orderly.take {job : Job} {rest : List Job} (hl : l.Orderly moving) (hline : l.line = job :: rest)
    (hjob : ∀ i, moving ≠ some i → job = .call i → (l.thread i).wait.isIdle = true) :
    ({ l with line := rest } : Loop).Orderly moving := by
  refine ⟨hl.untimed, hl.length, fun {i call p} hi hcall => ?_, hl.waiting, hl.enlisted, hl.nodup,
    hl.left⟩
  have hplace := hl.placed hi hcall
  by_cases heq : job = .call i
  · exact hplace.of_isIdle (hjob i hi heq)
  · refine hplace.mono fun hmem => ?_
    rw [hline, List.mem_cons] at hmem
    exact hmem.resolve_left fun h => heq h.symm

/-- A call that is not in the queue may begin to move. -/
theorem Orderly.lift (hl : l.Orderly none) (hmark : (l.thread j).wait.mark? = none) :
    l.Orderly (some j) := by
  refine ⟨hl.untimed, hl.length, fun _ hcall => hl.place hcall, hl.waiting,
    fun _ hb => hl.mem_waiters hb, hl.nodup, ?_⟩
  rintro i b ⟨⟩ hb
  rw [hl.waiting hb] at hmark
  cases hmark

/-- And so may one that leaves the queue. -/
theorem Orderly.leave (hl : l.Orderly none) (j : Nat) : (l.leave j).Orderly (some j) := by
  have hsub : (l.leave j).waiters.Sublist l.waiters := List.filter_sublist
  refine ⟨hl.untimed, hl.length, fun _ hcall => hl.place hcall,
    fun hb => hl.waiting (hsub.subset hb), fun hi hb => ?_, (hsub.map _).nodup hl.nodup, ?_⟩
  · refine List.mem_filter.mpr ⟨hl.mem_waiters hb, ?_⟩
    simpa using fun hij => hi (congrArg some hij.symm)
  · rintro i b ⟨⟩ hb
    simpa using (List.mem_filter.mp hb).2

theorem Settles.callFirst (h : Settles j l l') (free : Bool) :
    Settles j l (if free then l'.callFirst else l') := by
  obtain ⟨hl', hbeside⟩ := h
  obtain ⟨hl'', hbeside'⟩ := moves_ite_callFirst free hl'
  exact ⟨hl'', fun i hi => (hbeside i hi).trans (hbeside' i (by simp))⟩

/-- A call that goes on after its asking has ended. -/
theorem hear_settles {d : Decision} {attempt : Nat} (ending : ReplyEnding) (hl : l.Orderly (some j))
    (hj : l.session.call? j = some (call, .asking d attempt true)) :
    Settles j l (l.hear j ending) := by
  unfold hear
  cases he : ending.event j with
  | none => exact hl.settles_set hj .deaf rfl
  | some e =>
    obtain ⟨hsub, hshow, hstep⟩ := step_of_ending hj he
    exact proceed_settles_of_step hl hj hsub hshow hstep

/-- A call that goes on because it is cancelled. -/
theorem cancel_settles (hl : l.Orderly (some j)) (hj : l.session.call? j = some (call, p))
    (hp : p.isOver = false) : Settles j l (l.proceed j (.cancel j)) := by
  have hstep : (l.session.step (.cancel j)).isSome = true := by
    cases p <;> simp_all [step, Phase.isOver]
  exact proceed_settles_of_step hl hj rfl (by simp) hstep

/-- A call that comes to the front of the queue. -/
theorem takeTurn_settles {d : Decision} (hl : l.Orderly (some j))
    (hj : l.session.call? j = some (call, .queued d)) : Settles j l (l.proceed j (.takeTurn j)) := by
  rcases l.session.after_subject_cases (e := .takeTurn j) rfl with hsame | ⟨call', p, u, q, hj', hp, heq⟩
  · exact proceed_settles hl rfl (by rw [hsame]; exact hj) rfl
  · rw [hj] at hj'
    cases hj'
    exact proceed_settles hl rfl (by rw [heq]; exact hp.call?_self hj) (hp.not_resting (by simp))

/-- There is no thread of a call that does not exist. -/
theorem Orderly.thread_of_none (hl : l.Orderly moving) (hcall : l.session.call? j = none) :
    l.thread j = ⟨.over, false⟩ := by
  have hle : l.threads.length ≤ j := hl.length ▸ List.getElem?_eq_none_iff.mp hcall
  rw [thread, List.getD_eq_getElem?_getD, List.getElem?_eq_none hle]
  rfl

/-- What call `j` does in its turn if time is not limited, by where it stands and how it has waited. The loop is
the one that is left when the turn has been taken from the line. -/
inductive Resumes (j : Nat) (l : Loop) : Loop → Prop
  /-- It waits for something that comes from elsewhere, or it is over. -/
  | stays (hwait : (l.thread j).wait.isIdle = true) : Resumes j l l
  | begins {call : Call} (hcall : l.session.call? j = some (call, .ready))
      (hmark : (l.thread j).wait.mark? = none) : Resumes j l (l.proceed j (.begin j))
  | proceeds {call : Call} {p : Phase} {e : Event} (hcall : l.session.call? j = some (call, p)) (hp : p.isQueued = false)
      (hmark : (l.thread j).wait.mark? = none) (he : e.subject? = some j) (hshow : e ≠ .show_ j)
      (hbegin : e ≠ .begin j) (hstep : (l.session.step e).isSome = true) : Resumes j l (l.proceed j e)
  | hears {call : Call} {d : Decision} {attempt : Nat} {ending : ReplyEnding}
      (hcall : l.session.call? j = some (call, .asking d attempt true))
      (hmark : (l.thread j).wait.mark? = none) : Resumes j l (l.hear j ending)
  /-- It needs some more turns. -/
  | waits {call : Call} {p : Phase} {w : Wait} (hcall : l.session.call? j = some (call, p))
      (hmark : (l.thread j).wait.mark? = none) (hplace : Place (l.line ++ [.call j]) j p w)
      (hw : w.mark? = none) : Resumes j l ((l.set j w).enqueue (.call j))
  | takesTurn {call : Call} {d : Decision} (hcall : l.session.call? j = some (call, .queued d))
      (hmark : (l.thread j).wait.mark? = some true) :
      Resumes j l ((l.leave j).proceed j (.takeTurn j))
  /-- It is cancelled after it has been called. -/
  | givesUp {call : Call} {d : Decision} {l' : Loop} (hcall : l.session.call? j = some (call, .queued d))
      (hmark : (l.thread j).wait.mark? = some true) (hl' : (l.leave j).proceed j (.cancel j) = l') :
      Resumes j l (if l'.session.holder.isNone then l'.callFirst else l')
  /-- It was cancelled in the queue. -/
  | leaves {call : Call} {f : CallFailure} {l' : Loop} (hcall : l.session.call? j = some (call, .failed f))
      (hmark : (l.thread j).wait.mark? = some true) (hl' : (l.leave j).set j .over = l') :
      Resumes j l (if l'.session.holder.isNone then l'.callFirst else l')

theorem Orderly.resumes (hl : l.Orderly none) (j : Nat) (rest : List Job) :
    Resumes j { l with line := rest } (({ l with line := rest } : Loop).resume j) := by
  rcases hthread : l.thread j with ⟨w, struck⟩
  generalize hl' : ({ l with line := rest } : Loop) = l'
  have hthread' : l'.thread j = ⟨w, struck⟩ := by rw [← hl']; exact hthread
  have hwait : (l'.thread j).wait = w := by rw [hthread']
  have hsession : l'.session = l.session := by rw [← hl']
  unfold resume
  rw [hthread']
  cases hcall : l'.session.call? j with
  | none =>
    have hover := hl.thread_of_none (hsession ▸ hcall)
    rw [hthread] at hover
    cases hover
    exact .stays (by rw [hwait]; rfl)
  | some x =>
    obtain ⟨call, p⟩ := x
    have hplace := hl.place (hsession ▸ hcall)
    rw [hthread] at hplace
    have hcancel : p.isOver = false → p.isQueued = false → w.mark? = none →
        Resumes j l' (l'.proceed j (.cancel j)) := fun hover hp hmark =>
      .proceeds hcall hp (by rw [hwait]; exact hmark) rfl (by simp) (by simp)
        (by cases p <;> simp_all [step, Phase.isOver])
    cases hplace with
    | starting =>
      cases struck with
      | true => exact hcancel rfl rfl rfl
      | false => exact .begins hcall (by rw [hwait]; rfl)
    | inQueue | deaf | ended => exact .stays (by rw [hwait]; rfl)
    | called =>
      cases struck with
      | true => exact .givesUp hcall (by rw [hwait]; rfl) rfl
      | false => exact .takesTurn hcall (by rw [hwait]; rfl)
    | leaving => exact .leaves hcall (by rw [hwait]; rfl) rfl
    | listening =>
      cases struck with
      | true => exact hcancel rfl rfl rfl
      | false =>
        dsimp only
        rw [if_neg Bool.false_ne_true]
        split
        · exact .waits hcall (by rw [hwait]; rfl) (.listening (by simp)) rfl
        · exact .hears hcall (by rw [hwait]; rfl)
    | roused => exact hcancel rfl rfl rfl
    | @executing d turns answer =>
      cases struck with
      | true => exact hcancel rfl rfl rfl
      | false =>
        dsimp only
        rw [if_neg Bool.false_ne_true]
        split
        · exact .waits hcall (by rw [hwait]; rfl) (.executing (by simp)) rfl
        · exact .proceeds (e := .finish j answer) hcall rfl (by rw [hwait]; rfl) rfl (by simp) (by simp)
            (by simp [step, hcall])

/-- The turn of a call. -/
theorem resume_settles {rest : List Job} (hl : l.Orderly none) (hline : l.line = .call j :: rest) :
    Settles j { l with line := rest } (({ l with line := rest } : Loop).resume j) := by
  have hidle : ∀ {i}, some j ≠ some i → Job.call j = .call i → (l.thread i).wait.isIdle = true :=
    fun hi heq => absurd (congrArg some (Job.call.inj heq)) hi
  -- whoever waits in the line is not in the queue any more
  have hmoving : (l.thread j).wait.mark? = none → ({ l with line := rest } : Loop).Orderly (some j) :=
    fun hmark => (hl.lift hmark).take hline fun i hi => hidle hi
  have hleaving : (({ l with line := rest } : Loop).leave j).Orderly (some j) :=
    (hl.leave j).take hline fun i hi => hidle hi
  have hleft : ∀ {l''}, Settles j (({ l with line := rest } : Loop).leave j) l'' →
      Settles j { l with line := rest } l'' := by
    rintro l'' ⟨hl'', hbeside⟩
    refine ⟨hl'', fun i hi => Beside.trans ?_ (hbeside i hi)⟩
    exact ⟨rfl, ⟨[], by simp [Loop.leave]⟩, .inl rfl⟩
  have hresumes := hl.resumes j rest
  generalize ({ l with line := rest } : Loop).resume j = l' at hresumes ⊢
  cases hresumes with
  | stays hwait =>
    refine ⟨hl.take hline fun i _ heq => ?_, fun i _ => .refl i _⟩
    rw [← Job.call.inj heq]
    exact hwait
  | begins hcall hmark =>
    exact proceed_settles_of_step (hmoving hmark) hcall rfl (by simp) (by simp [step, hcall])
  | proceeds hcall _ hmark he hshow _ hstep =>
    exact proceed_settles_of_step (hmoving hmark) hcall he hshow hstep
  | hears hcall hmark => exact hear_settles _ (hmoving hmark) hcall
  | waits hcall hmark hplace hw => exact (hmoving hmark).settles_enqueue hcall hplace hw
  | takesTurn hcall => exact hleft (takeTurn_settles hleaving hcall)
  | givesUp hcall _ hl' =>
    rw [← hl']
    exact hleft ((cancel_settles hleaving hcall rfl).callFirst _)
  | leaves hcall _ hl' =>
    rw [← hl']
    exact hleft ((hleaving.settles_set hcall (.ended rfl) rfl).callFirst _)

/-! ### Cancellations, and the rest of the line -/

/-- Being struck changes nothing about where a call waits. -/
theorem thread_strike_wait (l : Loop) (i j : Nat) : ((l.strike j).thread i).wait = (l.thread i).wait := by
  unfold strike thread
  simp only [List.getD_eq_getElem?_getD, List.getElem?_set]
  split
  · rename_i hij
    subst hij
    split
    · rfl
    · rename_i hlt
      rw [List.getElem?_eq_none (Nat.le_of_not_lt hlt)]
  · rfl

theorem Orderly.strike (hl : l.Orderly none) (j : Nat) : (l.strike j).Orderly none := by
  refine ⟨hl.untimed, ?_, fun _ hcall => ?_, fun hb => ?_, fun hi hb => ?_, hl.nodup, by simp⟩
  · rw [Loop.strike, List.length_set, hl.length]
  · rw [thread_strike_wait]
    exact hl.place hcall
  · rw [thread_strike_wait]
    exact hl.waiting hb
  · rw [thread_strike_wait] at hb
    exact hl.enlisted hi hb

theorem beside_strike (hij : i ≠ j) : Beside i l (l.strike j) := by
  refine ⟨rfl, ⟨[], by simp [strike]⟩, .inl ?_⟩
  simp [thread, strike, List.getD_eq_getElem?_getD, List.getElem?_set_ne (Ne.symm hij)]

/-- Without a time limit nobody watches a prompt. -/
theorem Orderly.not_watch (hl : l.Orderly none) (i attempt : Nat) (watch : Watch) (asker : Asker) :
    (l.thread i).wait ≠ .watch attempt watch asker := by
  intro hw
  cases hcall : l.session.call? i with
  | some x =>
    obtain ⟨call, p⟩ := x
    have hplace := hl.place hcall
    rw [hw] at hplace
    cases hplace
  | none =>
    rw [hl.thread_of_none hcall] at hw
    cases hw

theorem Orderly.watchOf_eq_none (hl : l.Orderly none) (i attempt : Nat) : l.watchOf i attempt = none := by
  unfold watchOf
  split
  · rename_i k watch asker hw
    exact absurd hw (hl.not_watch i k watch asker)
  · rfl

/-- A call that waits for its turn to ask is one of the session, and its phase says so. -/
theorem Orderly.queued_of_inQueue (hl : l.Orderly none) (hwait : (l.thread j).wait = .inQueue) :
    ∃ call d, l.session.call? j = some (call, .queued d) := by
  cases hcall : l.session.call? j with
  | none =>
    rw [hl.thread_of_none hcall] at hwait
    cases hwait
  | some x =>
    obtain ⟨call, p⟩ := x
    have hplace := hl.place hcall
    rw [hwait] at hplace
    cases hplace with
    | inQueue => exact ⟨call, _, rfl⟩

/-- Who is cancelled in the queue need not be called any more. -/
theorem mem_waiters_marked {waiters : List (Nat × Bool)} {b : Bool} :
    (i, b) ∈ waiters.map (fun x => (x.1, x.2 || decide (x.1 = j))) ↔
      ∃ called, (i, called) ∈ waiters ∧ (called || decide (i = j)) = b := by
  rw [List.mem_map]
  constructor
  · rintro ⟨⟨k, called⟩, hmem, heq⟩
    obtain ⟨rfl, rfl⟩ := Prod.mk.inj heq
    exact ⟨called, hmem, rfl⟩
  · rintro ⟨called, hmem, rfl⟩
    exact ⟨(i, called), hmem, rfl⟩

/-- A call that waits in the queue is cancelled at once, and leaves the queue when it gets a turn. -/
theorem cancel_inQueue_settles (hl : l.Orderly none) (hwait : (l.thread j).wait = .inQueue) :
    Settles j l (l.cancel j) := by
  generalize hl' : l.cancel j = l'
  simp only [cancel, hwait] at hl'
  have hlt : j < l.threads.length := lt_length_of_wait (by simp [hwait])
  have hself : l'.thread j = ⟨.leaving, false⟩ := by
    rw [← hl']
    exact thread_set_self (l := l.happen (.cancel j)) hlt .leaving
  have hline : l'.line = l.line ++ [.call j] := by rw [← hl']; rfl
  have hsession : l'.session = l.session.after (.cancel j) := by rw [← hl']; rfl
  have hwaiters : l'.waiters = l.waiters.map fun x => (x.1, x.2 || x.1 = j) := by
    rw [← hl']
    rfl
  have hmem : ∀ b, (j, b) ∈ l.waiters ↔ b = false := by
    intro b
    rw [(hl.consistent (by simp)).mark, hwait]
    simp [Wait.mark?, eq_comm]
  refine hl.settles_of_untouched (fun i hi => (Option.some_ne_none i hi.symm).elim) ?_ ?_ ?_ ⟨_, hline⟩
    (fun i hij => ?_) (fun i hij => ?_) (fun i hij b => ?_) ⟨fun {call' p'} hi => ?_, fun b => ?_⟩
  · rw [← hl']
    rfl
  · rw [hsession, calls_length_after (e := .cancel j) (by simp), ← hl.length, ← hl']
    simp [enqueue, set, happen]
  · have hkeys : l'.waiters.map (·.1) = l.waiters.map (·.1) := by
      rw [hwaiters, List.map_map]
      rfl
    rw [hkeys]
    exact hl.nodup
  · rw [hsession]
    exact call?_after_ne (fun heq => hij (Option.some.inj heq).symm) (by simp)
  · rw [← hl']
    exact thread_set_ne (l := l.happen (.cancel j)) hij .leaving
  · rw [hwaiters, mem_waiters_marked]
    simp [hij]
  · -- the call waited for its turn to ask, so the cancellation was the end of it
    obtain ⟨call, d, hold⟩ := hl.queued_of_inQueue hwait
    obtain ⟨u, q, hp, heq⟩ := exists_progress_of_step (e := .cancel j) hold rfl (by simp [step, hold])
    rw [hsession, heq, hp.call?_self hold] at hi
    cases hi
    rw [hself]
    cases hp with
    | cancelQueued => exact .leaving (by simp [hline])
  · rw [hwaiters, mem_waiters_marked, hself]
    simp [hmem, Wait.mark?]

/-- A call that is cancelled keeps a place, and the others keep theirs. -/
theorem Orderly.cancel_settles (hl : l.Orderly none) (j : Nat) : Settles j l (l.cancel j) := by
  have hstrike : Settles j l (l.strike j) := ⟨hl.strike j, fun i hi => beside_strike hi⟩
  cases hcall : l.session.call? j with
  | none =>
    rw [cancel, hl.thread_of_none hcall]
    exact ⟨hl, fun i _ => .refl i l⟩
  | some x =>
    obtain ⟨call, p⟩ := x
    have hplace := hl.place hcall
    cases hwait : (l.thread j).wait with
    | inQueue => exact cancel_inQueue_settles hl hwait
    | deaf =>
      simp only [cancel, hwait]
      rw [hwait] at hplace
      cases hplace with
      | deaf => exact (hl.lift (by rw [hwait]; rfl)).settles_enqueue hcall (.roused (by simp)) rfl
    | watch attempt watch asker => exact absurd hwait (hl.not_watch j attempt watch asker)
    | starting | called | leaving | listening turns ending | roused | executing turns answer =>
      simp only [cancel, hwait]
      exact hstrike
    | _ =>
      -- the call is over, and nothing is left to cancel
      simp only [cancel, hwait]
      exact ⟨hl, fun i _ => .refl i l⟩

/-- The call that a job is about. -/
def subject : Job → Nat
  | .call i | .asker i _ | .notice i _ | .strike i _ => i

/-- What a job comes to that is not the turn of a call, if time is not limited. -/
theorem Orderly.other_turn_cases {job : Job} (hl : l.Orderly none) (hjob : ∀ i, job ≠ .call i) :
    l.turn job = l ∨ l.turn job = l.strike (subject job) ∨ l.turn job = l.cancel (subject job) ∨
      ∃ job', l.turn job = l.enqueue job' := by
  cases job with
  | call i => exact absurd rfl (hjob i)
  | asker i attempt =>
    rw [turn, ask, hl.watchOf_eq_none]
    dsimp only
    split
    · exact .inr (.inl rfl)
    · exact .inl rfl
  | notice i attempt =>
    rw [turn, notice, hl.watchOf_eq_none]
    exact .inl rfl
  | strike i turns =>
    rw [turn]
    split
    · exact .inr (.inr (.inr ⟨_, rfl⟩))
    · exact .inr (.inr (.inl rfl))

/-- What a turn of the loop does to the calls. -/
theorem turn_settles {job : Job} {rest : List Job} (hl : l.Orderly none) (hline : l.line = job :: rest) :
    Settles (subject job) { l with line := rest } (({ l with line := rest } : Loop).turn job) := by
  by_cases hcall : ∃ i, job = .call i
  · obtain ⟨i, rfl⟩ := hcall
    exact resume_settles hl hline
  · rw [not_exists] at hcall
    have hl' := hl.take hline fun i _ heq => absurd heq (hcall i)
    rcases hl'.other_turn_cases hcall with heq | heq | heq | ⟨job', heq⟩ <;> rw [heq]
    · exact ⟨hl', fun k _ => .refl k _⟩
    · exact ⟨hl'.strike _, fun k hk => beside_strike hk⟩
    · exact hl'.cancel_settles _
    · obtain ⟨hnext, hbeside⟩ := moves_enqueue job' hl'
      exact ⟨hnext, fun k _ => hbeside k (by simp)⟩

/-- Without a time limit nobody's time is up. -/
theorem Orderly.timeUp_eq_none (hl : l.Orderly none) : l.timeUp? = none := by
  unfold timeUp?
  rw [List.findSome?_eq_none_iff]
  intro i _
  split
  · rename_i attempt asker hw
    exact absurd hw (hl.not_watch i attempt .watching asker)
  · rfl

theorem Orderly.runFor (hl : l.Orderly none) (turns : Nat) : (runFor turns l).Orderly none := by
  induction turns generalizing l with
  | zero => exact hl
  | succ turns ih =>
    unfold Loop.runFor
    split
    · rename_i job rest hline
      exact ih (turn_settles hl hline).1
    · rw [hl.timeUp_eq_none]
      exact hl

/-- One more at the end of a list is at no other place of it. -/
theorem getElem?_append_singleton_ne {α : Type} {xs : List α} (x : α) (hi : i ≠ xs.length) :
    (xs ++ [x])[i]? = xs[i]? := by
  rcases Nat.lt_or_gt_of_ne hi with hlt | hgt
  · exact List.getElem?_append_left hlt
  · rw [List.getElem?_eq_none (Nat.le_of_lt hgt), List.getElem?_eq_none]
    rw [List.length_append, List.length_singleton]
    exact hgt

/-- A new call waits for its first turn. -/
theorem Orderly.submit (hl : l.Orderly none) (call : Call) : (l.submit call).Orderly none := by
  have hsession : (l.submit call).session =
      { l.session with calls := l.session.calls ++ [(call, .ready)] } := rfl
  have hthreads : (l.submit call).threads = l.threads ++ [⟨.starting, false⟩] := rfl
  have hline : (l.submit call).line = l.line ++ [.call l.session.calls.length] := rfl
  have hself : (l.submit call).thread l.session.calls.length = ⟨.starting, false⟩ := by
    simp [thread, hthreads, ← hl.length]
  have hfresh : ∀ b, (l.session.calls.length, b) ∉ l.waiters := fun b hb =>
    absurd (lt_length_of_mark (hl.waiting hb)) (hl.length ▸ Nat.lt_irrefl _)
  have hsettles : Settles l.session.calls.length l (l.submit call) := by
    refine hl.settles_of_untouched (fun i hi => (Option.some_ne_none i hi.symm).elim) rfl ?_ hl.nodup
      ⟨_, hline⟩ (fun i hi => ?_) (fun i hi => ?_) (fun i _ b => .rfl) ⟨fun {call' p} hi => ?_, fun b => ?_⟩
    · simp [hthreads, hsession, hl.length]
    · rw [hsession]
      exact getElem?_append_singleton_ne _ hi
    · rw [thread, thread, hthreads, List.getD_eq_getElem?_getD, List.getD_eq_getElem?_getD,
        getElem?_append_singleton_ne _ (hl.length ▸ hi)]
    · rw [hsession] at hi
      obtain ⟨-, rfl⟩ : call = call' ∧ Phase.ready = p := by simpa [call?] using hi
      rw [hself]
      exact .starting (by simp [hline])
    · rw [hself]
      exact iff_of_false (hfresh b) (by simp [Wait.mark?])
  exact hsettles.1

theorem Orderly.cancelAfter (hl : l.Orderly none) (i turns : Nat) :
    (l.cancelAfter i turns).Orderly none := by
  unfold Loop.cancelAfter
  split
  · exact (hl.cancel_settles i).1
  · exact (moves_enqueue _ hl).1

/-! ## Loops that serve without a time limit -/

/-- What becomes of a new loop without a time limit: calls are made and cancelled, people decide, withdraw and
exchange rules, and the loop takes turns, in any order. -/
inductive Serves : Loop → Prop
  | new (config : GateConfig) (rules : RuleSet) (replies : List ReplyScript) (runs : List RunScript) :
      Serves { session := { config, rules }, replies, runs }
  | submit {l : Loop} (call : Call) (h : Serves l) : Serves (l.submit call)
  | cancelAfter {l : Loop} (i turns : Nat) (h : Serves l) : Serves (l.cancelAfter i turns)
  | interject {l : Loop} (x : Interjection) (h : Serves l) : Serves (l.interject x)
  | runFor {l : Loop} (turns : Nat) (h : Serves l) : Serves (runFor turns l)

/-- Between the turns of such a loop every call is in its place. -/
theorem Serves.orderly (h : Serves l) : l.Orderly none := by
  induction h with
  | new config rules replies runs =>
    refine ⟨rfl, rfl, fun _ hi => ?_, fun hb => ?_, fun _ hmark => ?_, .nil, by simp⟩
    · simp [call?] at hi
    · cases hb
    · cases lt_length_of_mark hmark
  | submit call _ ih => exact ih.submit call
  | cancelAfter i turns _ ih => exact ih.cancelAfter i turns
  | interject x _ ih => exact (moves_interject x ih).1
  | runFor turns _ ih => exact ih.runFor turns

end Loop
end PolicyGate
