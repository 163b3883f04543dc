import PolicyGate.Proofs.Consent.Run

/-!
# The turn to ask

Only one call asks at a time: the holder of the turn is the call that asks, and no other call asks
(`Run.turnHeld`). A call gets its turn only while nothing is decided, and from then on the calls record
nothing until it gives the turn back. What they cannot keep out is a person on their own. So the question
whether something is decided while a call has its turn has an exact answer, `Run.overtaken_iff`: that is so
if and only if somebody decided from outside since it got the turn.

The calls that wait for their turn are those in the queue (`Session.InLine`).

The answer matters because a call looks for an earlier decision once, when it gets its turn. Nothing that
it does later, while it asks, looks again.
-/

namespace PolicyGate

/-- The call has its turn. -/
def Phase.isAsking : Phase → Bool
  | .asking _ _ _ => true
  | _ => false

@[simp] theorem Phase.isAsking_following (mode : ConsentMode) (call : Call) (d : Decision) :
    (following mode call d).isAsking = false := by
  cases mode <;> rfl

namespace Session

/-- Call `i` asks. -/
def Asks (s : Session) (i : Nat) : Prop :=
  ∃ call p, s.call? i = some (call, p) ∧ p.isAsking = true

/-- The calls that ask are those that hold the turn, and there is at most one. -/
def TurnHeld (s : Session) : Prop := ∀ i, s.holder = some i ↔ s.Asks i

variable {s t u : Session} {i j : Nat} {call : Call} {e : Event} {p q : Phase}

/-- A call stands in one phase, so what is true of a phase of it is true of that one. -/
theorem exists_phase_iff {test : Phase → Bool} (hi : s.call? i = some (call, p)) :
    (∃ call p, s.call? i = some (call, p) ∧ test p = true) ↔ test p = true := by
  refine ⟨?_, fun hp => ⟨call, p, hi, hp⟩⟩
  rintro ⟨call', p', hi', hp'⟩
  rw [hi] at hi'
  cases hi'
  exact hp'

/-- A new call adds no phase but the beginning. -/
theorem exists_phase_arrive {test : Phase → Bool} (htest : test .ready = false) (new : Call) (i : Nat) :
    (∃ call p, s.call? i = some (call, p) ∧ test p = true) ↔
      ∃ call p, ({ s with calls := s.calls ++ [(new, .ready)] } : Session).call? i = some (call, p) ∧
        test p = true := by
  constructor
  · rintro ⟨call, p, hi, hp⟩
    rcases (Change.arrive new).call? hi with h | ⟨_, _, h, -⟩
    · exact ⟨call, p, h, hp⟩
    · cases h.subject?
  · rintro ⟨call, p, hi, hp⟩
    rcases (Change.arrive new).call?_cases hi with h | ⟨-, rfl⟩ | ⟨_, _, _, h, -⟩
    · exact ⟨call, p, h, hp⟩
    · rw [htest] at hp
      cases hp
    · cases h.subject?

theorem asks_iff (hi : s.call? i = some (call, p)) : s.Asks i ↔ p.isAsking = true :=
  exists_phase_iff hi

/-- What a call's progress does to the turn: the call keeps it, or stays without it; takes it, if it is
free and nothing is decided; or gives it back. Only one that gives it back can change the consent. -/
theorem Progress.turn (h : Progress s i call e p u q) :
    (q.isAsking = p.isAsking ∧ u.holder = s.holder ∧ u.consent = s.consent) ∨
      (s.holder = none ∧ u.holder = some i ∧ q.isAsking = true ∧ u.consent.askedOnce = false) ∨
      (p.isAsking = true ∧ q.isAsking = false ∧ u.holder = none) := by
  cases h with
  | enter _ ha _ hh | takeTurn hh _ ha => exact .inr (.inl ⟨hh, rfl, rfl, ha⟩)
  | settle | decline => exact .inr (.inr ⟨rfl, Phase.isAsking_following .., rfl⟩)
  | abandon | collide | promptFails => exact .inr (.inr ⟨rfl, rfl, rfl⟩)
  | late => exact .inl ⟨Phase.isAsking_following .., rfl, rfl⟩
  | pass hh => exact .inl ⟨Phase.isAsking_following .., hh.symm, rfl⟩
  | _ => exact .inl ⟨rfl, rfl, rfl⟩

/-- A call that does not have the turn does not ask. -/
theorem TurnHeld.not_asking (hs : s.TurnHeld) (hi : s.call? i = some (call, p))
    (hh : s.holder ≠ some i) : p.isAsking = false := by
  cases hp : p.isAsking with
  | false => rfl
  | true => exact absurd ((hs i).mpr ⟨call, p, hi, hp⟩) hh

/-- A call that does not ask shows no prompt. -/
theorem Progress.asked_of_not_asking (h : Progress s i call e p u q) (hp : p.isAsking = false) :
    u.asked = s.asked := by
  rcases h.asked with hu | ⟨d, attempt, rfl, -⟩
  · exact hu
  · cases hp

/-- The progress of one call leaves the asking of the others alone. -/
theorem Progress.asks_ne (h : Progress s i call e p u q) (hj : j ≠ i) :
    (u.land i call q).Asks j ↔ s.Asks j := by
  simp only [Asks, h.call?_ne hj]

theorem turnHeld_init (config : GateConfig) (rules : RuleSet) :
    ({ config, rules } : Session).TurnHeld := by
  intro i
  simp [Asks, Session.call?]

theorem turnHeld_progress (hs : s.TurnHeld) (hi : s.call? i = some (call, p))
    (h : Progress s i call e p u q) : (u.land i call q).TurnHeld := by
  intro j
  have hp : s.holder = some i ↔ p.isAsking = true := (hs i).trans (asks_iff hi)
  rw [land_holder]
  by_cases hj : j = i
  · subst hj
    rw [asks_iff (h.call?_self hi)]
    rcases h.turn with ⟨hq, hu, -⟩ | ⟨-, hu, hq, -⟩ | ⟨-, hq, hu⟩
    · rw [hq, hu, hp]
    · simp [hu, hq]
    · simp [hu, hq]
  · rw [h.asks_ne hj, ← hs j]
    -- the turn was free, or it was this call's, so it is not the other's
    rcases h.turn with ⟨-, hu, -⟩ | ⟨hfree, hu, -⟩ | ⟨hask, -, hu⟩
    · rw [hu]
    · simp [hfree, hu, Ne.symm hj]
    · simp [hp.mpr hask, hu, Ne.symm hj]

theorem turnHeld_change (hs : s.TurnHeld) (h : Change s e t) : t.TurnHeld := by
  cases h with
  | call hi hp => exact turnHeld_progress hs hi hp
  | arrive new => exact fun i => (hs i).trans (exists_phase_arrive rfl new i)
  | speak _ _ => exact hs
  | reload _ => exact hs

/-- Whoever has the turn after an event had it before, and then something is decided now only if it was
before or if the event is somebody's decision from outside; or has just got it, and then nothing is
decided. -/
theorem Change.turn (h : Change s e t) (ht : t.holder = some i) :
    (s.holder = some i ∧
        (t.consent.askedOnce = true ↔ s.consent.askedOnce = true ∨ e.decision?.isSome = true)) ∨
      (s.holder = none ∧ t.consent.askedOnce = false) := by
  cases h with
  | @call k call _ p u q hi hp =>
    rw [land_holder] at ht
    rw [land_consent, decision?_eq_none_of_subject? hp.subject?]
    rcases hp.turn with ⟨-, hu, hc⟩ | ⟨hfree, -, -, ha⟩ | ⟨-, -, hu⟩
    · exact .inl ⟨hu ▸ ht, by simp [hc]⟩
    · exact .inr ⟨hfree, ha⟩
    · rw [hu] at ht
      cases ht
  | arrive _ => exact .inl ⟨ht, by simp [Event.decision?]⟩
  | speak hd _ => exact .inl ⟨ht, by simp [hd]⟩
  | reload _ => exact .inl ⟨ht, by simp [Event.decision?]⟩

end Session

/-! ## Those who wait for the turn -/

/-- The call waits for its turn. -/
def Phase.isQueued : Phase → Bool
  | .queued _ => true
  | _ => false

@[simp] theorem Phase.isQueued_following (mode : ConsentMode) (call : Call) (d : Decision) :
    (following mode call d).isQueued = false := by
  cases mode <;> rfl

namespace Session

/-- Call `i` waits for its turn. -/
def Queues (s : Session) (i : Nat) : Prop :=
  ∃ call p, s.call? i = some (call, p) ∧ p.isQueued = true

/-- The queue lists the calls that wait for their turn, each once. -/
structure InLine (s : Session) : Prop where
  mem_iff : ∀ i, i ∈ s.queue ↔ s.Queues i
  nodup : s.queue.Nodup

variable {s u : Session} {i j : Nat} {call : Call} {e : Event} {p q : Phase}

theorem queues_iff (hi : s.call? i = some (call, p)) : s.Queues i ↔ p.isQueued = true :=
  exists_phase_iff hi

/-- What a call's progress does to the queue: the call stays in it or out of it, joins it at the end, or
leaves it. -/
theorem Progress.queue (h : Progress s i call e p u q) :
    (q.isQueued = p.isQueued ∧ u.queue = s.queue) ∨
      (p.isQueued = false ∧ q.isQueued = true ∧ u.queue = s.queue ++ [i]) ∨
      (p.isQueued = true ∧ q.isQueued = false ∧ u.queue = s.queue.erase i) := by
  cases h with
  | line => exact .inr (.inl ⟨rfl, rfl, rfl⟩)
  | takeTurn | cancelQueued => exact .inr (.inr ⟨rfl, rfl, rfl⟩)
  | pass => exact .inr (.inr ⟨rfl, Phase.isQueued_following .., rfl⟩)
  | late | settle | decline => exact .inl ⟨Phase.isQueued_following .., rfl⟩
  | _ => exact .inl ⟨rfl, rfl⟩

/-- The progress of one call leaves the waiting of the others alone. -/
theorem Progress.queues_ne (h : Progress s i call e p u q) (hj : j ≠ i) :
    (u.land i call q).Queues j ↔ s.Queues j := by
  simp only [Queues, h.call?_ne hj]

theorem inLine_progress (hs : s.InLine) (hi : s.call? i = some (call, p))
    (h : Progress s i call e p u q) : (u.land i call q).InLine := by
  have hp : i ∈ s.queue ↔ p.isQueued = true := (hs.mem_iff i).trans (queues_iff hi)
  have hq := queues_iff (h.call?_self hi)
  refine ⟨fun j => ?_, ?_⟩ <;> rw [land_queue]
  · by_cases hj : j = i
    · subst hj
      rw [hq]
      rcases h.queue with ⟨hsame, hu⟩ | ⟨-, hin, hu⟩ | ⟨-, hout, hu⟩
      · rw [hu, hp, hsame]
      · simp [hu, hin]
      · simp [hu, hout, hs.nodup.mem_erase_iff]
    · rw [h.queues_ne hj, ← hs.mem_iff j]
      rcases h.queue with ⟨-, hu⟩ | ⟨-, -, hu⟩ | ⟨-, -, hu⟩
      · rw [hu]
      · simp [hu, hj]
      · rw [hu, List.mem_erase_of_ne hj]
  · rcases h.queue with ⟨-, hu⟩ | ⟨hout, -, hu⟩ | ⟨-, -, hu⟩
    · rw [hu]
      exact hs.nodup
    · -- who joins the queue was not in it
      have hnew : i ∉ s.queue := by simp [hp, hout]
      rw [hu, List.nodup_append]
      refine ⟨hs.nodup, by simp, fun a ha b hb => ?_⟩
      rw [List.mem_singleton.mp hb]
      exact fun heq => hnew (heq ▸ ha)
    · rw [hu]
      exact hs.nodup.erase i

theorem inLine_init (config : GateConfig) (rules : RuleSet) :
    ({ config, rules } : Session).InLine where
  mem_iff i := by simp [Queues, Session.call?]
  nodup := .nil

theorem inLine_change {t : Session} (hs : s.InLine) (h : Change s e t) : t.InLine := by
  cases h with
  | call hi hp => exact inLine_progress hs hi hp
  | arrive new =>
    exact ⟨fun i => (hs.mem_iff i).trans (exists_phase_arrive rfl new i), hs.nodup⟩
  | speak _ _ | reload _ => exact ⟨hs.mem_iff, hs.nodup⟩

end Session

/-! ## Who was overtaken -/

namespace Run

open Session

variable (r : Run) {n i j : Nat} {call : Call} {d : Decision} {attempt : Nat} {shown : Bool}

theorem turnHeld (n : Nat) : (r.session n).TurnHeld :=
  r.invariant turnHeld_init turnHeld_change n

theorem inLine (n : Nat) : (r.session n).InLine :=
  r.invariant inLine_init inLine_change n

/-- A call that asks has the turn. -/
theorem holder_of_asking (hi : (r.session n).call? i = some (call, .asking d attempt shown)) :
    (r.session n).holder = some i :=
  (r.turnHeld n i).mpr ⟨call, _, hi, rfl⟩

/-- No two calls ask at the same time. -/
theorem asks_unique (hi : (r.session n).Asks i) (hj : (r.session n).Asks j) : i = j := by
  have h := ((r.turnHeld n i).mpr hi).symm.trans ((r.turnHeld n j).mpr hj)
  exact Option.some.inj h

/-- Since call `i` got the turn that it has at moment `n`, somebody has decided from outside. -/
def Overtaken (n i : Nat) : Prop :=
  ∃ k < n, (∀ m, k ≤ m → m ≤ n → (r.session m).holder = some i) ∧
    (r.event k).decision?.isSome = true

variable {r}

/-- One more event: a call is overtaken by it, or it was before. -/
theorem overtaken_succ (h : (r.session n).holder = some i)
    (h' : (r.session (n + 1)).holder = some i) :
    r.Overtaken (n + 1) i ↔ r.Overtaken n i ∨ (r.event n).decision?.isSome = true := by
  constructor
  · rintro ⟨k, hk, hheld, hd⟩
    rcases Nat.lt_or_eq_of_le (Nat.le_of_lt_succ hk) with hlt | rfl
    · exact .inl ⟨k, hlt, fun m hkm hmn => hheld m hkm (Nat.le_succ_of_le hmn), hd⟩
    · exact .inr hd
  · have last : ∀ m, m ≤ n + 1 → (m ≤ n → (r.session m).holder = some i) →
        (r.session m).holder = some i := by
      intro m hm hle
      rcases Nat.lt_or_eq_of_le hm with hlt | rfl
      · exact hle (Nat.le_of_lt_succ hlt)
      · exact h'
    rintro (⟨k, hk, hheld, hd⟩ | hd)
    · exact ⟨k, Nat.lt_succ_of_lt hk, fun m hkm hm => last m hm (hheld m hkm), hd⟩
    · refine ⟨n, Nat.lt_succ_self n, fun m hnm hm => last m hm fun hle => ?_, hd⟩
      rw [Nat.le_antisymm hle hnm]
      exact h

/-- Whoever has just got the turn is not overtaken. -/
theorem not_overtaken (h : (r.session n).holder ≠ some i) : ¬ r.Overtaken (n + 1) i := by
  rintro ⟨k, hk, hheld, -⟩
  exact h (hheld n (Nat.le_of_lt_succ hk) (Nat.le_succ n))

/-- While a call has the turn, something is decided exactly if the call was overtaken. -/
theorem overtaken_iff (h : (r.session n).holder = some i) :
    (r.session n).consent.askedOnce = true ↔ r.Overtaken n i := by
  induction n with
  | zero => cases h
  | succ n ih =>
    rcases r.next_cases n with hc | ⟨hs, hd⟩
    · rcases hc.turn h with ⟨hn, hiff⟩ | ⟨hfree, ha⟩
      · rw [overtaken_succ hn h, hiff, ih hn]
      · have hnot : ¬ r.Overtaken (n + 1) i := not_overtaken (by simp [hfree])
        simp [ha, hnot]
    · have hn : (r.session n).holder = some i := by rwa [hs] at h
      -- a decision from outside has no effect only if there was one before
      rw [overtaken_succ hn h, hs, ih hn]
      exact ⟨.inl, fun ho => ho.elim id fun hdec => (ih hn).mp (hd hdec)⟩

end Run
end PolicyGate
