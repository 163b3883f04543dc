import PolicyGate.Proofs.Consent.Turn

/-!
# When a decision from outside comes first

While a call asks, a person may decide on their own. The call does not look whether that has happened: the
end of the time, a last reply that brought nothing and a cancellation record a no in any case, and the next
prompt is shown in any case. All of this is right unless somebody was faster, and whether somebody was is
what `Run.Overtaken` says.

So the two theorems here are exact. A call ends in an error of the consent if and only if its asking stops
without a decision after it was overtaken (`consent_error_iff_overtaken`), and a prompt is shown in a session
that has decided if and only if its call was overtaken (`decided_iff_overtaken_when_shown`). Each is followed
by a short run in which it happens.
-/

namespace PolicyGate

namespace Run

open Session

variable {r : Run} {n i : Nat} {call : Call} {d : Decision} {attempt : Nat} {shown : Bool}

/-! ## Asking that stops without a decision -/

variable (r) in
/-- At moment `n` the asking of call `i` stops without a decision of its own: the call gives up, or it is
cancelled. -/
def Stops (n i attempt : Nat) (shown : Bool) : Prop :=
  (r.session n).GivesUp i attempt shown (r.event n) ∨ r.event n = .cancel i

/-- Nothing is decided in the session of a call that asks and that nobody overtook. -/
theorem undecided_of_not_overtaken
    (hi : (r.session n).call? i = some (call, .asking d attempt shown)) (ho : ¬ r.Overtaken n i) :
    (r.session n).consent.askedOnce = false := by
  have ha := mt (overtaken_iff (r.holder_of_asking hi)).mp ho
  simpa using ha

theorem next_of_givesUp (hi : (r.session n).call? i = some (call, .asking d attempt shown))
    (hg : (r.session n).GivesUp i attempt shown (r.event n)) :
    r.session (n + 1) = (r.session n).decline i call d :=
  r.next_of_step (step_givesUp hi hg)

theorem next_of_cancel (hi : (r.session n).call? i = some (call, .asking d attempt shown))
    (he : r.event n = .cancel i) : r.session (n + 1) = (r.session n).abandon i call := by
  refine r.next_of_step ?_
  rw [he]
  exact step_cancel_asking hi

/-- A call that stops asking after it was overtaken ends in an error. -/
theorem stops_overtaken (hi : (r.session n).call? i = some (call, .asking d attempt shown))
    (hstop : r.Stops n i attempt shown) (ho : r.Overtaken n i) :
    r.Fails n i call (.consent (.alreadyRecorded (r.session n).consent.mode)) := by
  have ha := (overtaken_iff (r.holder_of_asking hi)).mpr ho
  refine ⟨by simp [hi], ?_⟩
  have hp : Progress (r.session n) i call (r.event n) (.asking d attempt shown) _ _ :=
    .collide hstop ha
  rcases hstop with hg | he
  · rw [next_of_givesUp hi hg, decline_asked i call d ha]
    exact hp.call?_self hi
  · rw [next_of_cancel hi he, abandon_asked i call ha]
    exact hp.call?_self hi

/-- A call that gives up and that nobody overtook counts as a no, and its outcome says so. -/
theorem givesUp_declined (hi : (r.session n).call? i = some (call, .asking d attempt shown))
    (ho : ¬ r.Overtaken n i) (hg : (r.session n).GivesUp i attempt shown (r.event n)) :
    (r.session (n + 1)).call? i = some (call, .done (.blocked call d .consentDeclined)) ∧
      (r.session (n + 1)).consent = ⟨.deny, true⟩ := by
  have ha := undecided_of_not_overtaken hi ho
  rw [next_of_givesUp hi hg, decline_fresh i call d ha]
  exact ⟨(Progress.decline hg ha).call?_self hi, land_consent ..⟩

/-- A call that is cancelled while it asks and that nobody overtook counts as a no, and surfaces as
cancelled. -/
theorem cancel_cancelled (hi : (r.session n).call? i = some (call, .asking d attempt shown))
    (ho : ¬ r.Overtaken n i) (he : r.event n = .cancel i) :
    (r.session (n + 1)).call? i = some (call, .failed .cancelled) ∧
      (r.session (n + 1)).consent = ⟨.deny, true⟩ := by
  have ha := undecided_of_not_overtaken hi ho
  rw [next_of_cancel hi he, abandon_fresh i call ha]
  exact ⟨(Progress.abandon ha).call?_self hi, land_consent ..⟩

/-- Every way in which a call ends without an outcome. -/
theorem Fails.cases {f : CallFailure} (h : r.Fails n i call f) :
    (∃ x, f = .undecidable x ∧ r.Begins n i call ∧ (r.session n).verdictOn call = .error x) ∨
    (f = .cancelled ∧ r.event n = .cancel i) ∨
    (∃ message, f = .prompter message ∧ r.event n = .promptFails i message) ∨
    ∃ d attempt shown, f = .consent (.alreadyRecorded (r.session n).consent.mode) ∧
      (r.session n).call? i = some (call, .asking d attempt shown) ∧
        r.Stops n i attempt shown ∧ r.Overtaken n i := by
  obtain ⟨p, u, hi, hp, -⟩ := h.progress
  generalize he : r.event n = e at hp
  generalize hq : Phase.failed f = q at hp
  cases hp with
  | undecidable hv => exact .inl ⟨_, Phase.failed.inj hq, ⟨he, hi⟩, hv⟩
  | abandon | cancelReady | cancelQueued | cancelRunning =>
    exact .inr (.inl ⟨Phase.failed.inj hq, rfl⟩)
  | promptFails => exact .inr (.inr (.inl ⟨_, Phase.failed.inj hq, rfl⟩))
  | collide hg ha =>
    have ho := (overtaken_iff (r.holder_of_asking hi)).mp ha
    exact .inr (.inr (.inr ⟨_, _, _, Phase.failed.inj hq, hi, by rwa [Stops, he], ho⟩))
  | late | pass | settle | decline => exact absurd hq.symm (Phase.following_ne_failed _ _ _ _)
  | _ => cases hq

/-- A call that ends without an outcome could not be decided on, was cancelled, is handed on what went
wrong with its prompt, or ends in an error of the consent. The last happens exactly if the call stops asking
without a decision of its own after it was overtaken. One that stops without having been overtaken is
blocked as declined or, if it was cancelled, ends as cancelled, and counts as a no. -/
theorem consent_error_iff_overtaken (r : Run) :
    (∀ n i call f, r.Fails n i call f →
      (∃ x, f = .undecidable x ∧ r.Begins n i call ∧ (r.session n).verdictOn call = .error x) ∨
      (f = .cancelled ∧ r.event n = .cancel i) ∨
      (∃ message, f = .prompter message ∧ r.event n = .promptFails i message) ∨
      ∃ x, f = .consent x) ∧
    (∀ n i call x, r.Fails n i call (.consent x) ↔
      x = .alreadyRecorded (r.session n).consent.mode ∧
        ∃ d attempt shown, (r.session n).call? i = some (call, .asking d attempt shown) ∧
          r.Stops n i attempt shown ∧ r.Overtaken n i) ∧
    (∀ n i call d attempt shown, (r.session n).call? i = some (call, .asking d attempt shown) →
      ¬ r.Overtaken n i → r.Stops n i attempt shown →
        (r.session (n + 1)).consent = ⟨.deny, true⟩ ∧
        ((r.session n).GivesUp i attempt shown (r.event n) →
          (r.session (n + 1)).call? i = some (call, .done (.blocked call d .consentDeclined))) ∧
        (r.event n = .cancel i →
          (r.session (n + 1)).call? i = some (call, .failed .cancelled))) := by
  refine ⟨fun n i call f h => ?_, fun n i call x => ⟨fun h => ?_, ?_⟩, ?_⟩
  · rcases h.cases with hv | hc | hp | ⟨-, -, -, rfl, -⟩
    · exact .inl hv
    · exact .inr (.inl hc)
    · exact .inr (.inr (.inl hp))
    · exact .inr (.inr (.inr ⟨_, rfl⟩))
  · rcases h.cases with ⟨_, hf, -⟩ | ⟨hf, -⟩ | ⟨_, hf, -⟩ | ⟨d, attempt, shown, hf, hrest⟩
    · -- these three end with another failure
      cases hf
    · cases hf
    · cases hf
    · exact ⟨CallFailure.consent.inj hf, d, attempt, shown, hrest⟩
  · rintro ⟨rfl, d, attempt, shown, hi, hstop, ho⟩
    exact stops_overtaken hi hstop ho
  · intro n i call d attempt shown hi ho hstop
    refine ⟨?_, fun hg => (givesUp_declined hi ho hg).1, fun he => (cancel_cancelled hi ho he).1⟩
    rcases hstop with hg | he
    · exact (givesUp_declined hi ho hg).2
    · exact (cancel_cancelled hi ho he).2

/-- A run in which a person says yes on their own while the prompt of the only call is before them. -/
def overtakenBy (rest : List Event) : Run :=
  .ofList {} {} <|
    [.arrive { action := "azure.create" }, .begin 0, .show_ 0, .decide (some "yes")] ++ rest

/-- Whoever has the turn in a session that has decided, and stops asking, ends in an error. -/
theorem exists_fails_of_stops {mode : ConsentMode} (hh : (r.session n).holder = some i)
    (hc : (r.session n).consent = ⟨mode, true⟩)
    (hstop : ∀ attempt shown, r.Stops n i attempt shown) :
    ∃ call, r.Fails n i call (.consent (.alreadyRecorded mode)) := by
  obtain ⟨call, p, hi, hp⟩ := (r.turnHeld n i).mp hh
  cases p with
  | asking d attempt shown =>
    have hf := stops_overtaken hi (hstop ..) ((overtaken_iff hh).mp (by rw [hc]))
    rw [hc] at hf
    exact ⟨call, hf⟩
  | _ => cases hp

/-- The time of the call is up, or the call is cancelled, after the person said yes: both end in an error. -/
theorem timeOut_and_cancel_fail_after_yes :
    (∃ call, (overtakenBy [.timeOut 0]).Fails 4 0 call (.consent (.alreadyRecorded .execute))) ∧
      ∃ call, (overtakenBy [.cancel 0]).Fails 4 0 call (.consent (.alreadyRecorded .execute)) := by
  constructor
  · exact exists_fails_of_stops (by decide +kernel) (by decide +kernel) fun _ _ => .inl .timeOut
  · exact exists_fails_of_stops (by decide +kernel) (by decide +kernel) fun _ _ => .inr rfl

/-! ## Prompts in a session that has decided -/

/-- A prompt that has just been shown is that of the call whose turn it is. -/
theorem exists_shows (h : (r.session (n + 1)).asked ≠ (r.session n).asked) :
    ∃ i prompt, r.Shows n i prompt := by
  rcases r.next_cases n with hc | ⟨hs, -⟩
  · generalize ht : r.session (n + 1) = t at hc h
    generalize he : r.event n = e at hc
    cases hc with
    | @call i call e p u q hi hp =>
      rw [land_asked] at h
      cases hp with
      | @show_ d attempt =>
        refine ⟨i, ⟨call.action, call.args, d, attempt⟩, he, ?_⟩
        rw [ht, land_asked]
      | _ => exact absurd rfl h
    | arrive _ | speak _ _ | reload _ => exact absurd rfl h
  · rw [hs] at h
    exact absurd rfl h

/-- A call whose prompt is shown asks. -/
theorem Shows.asks {prompt : Prompt} (h : r.Shows n i prompt) : (r.session n).Asks i := by
  obtain ⟨he, hasked⟩ := h
  rcases subject_cases (n := n) (i := i) (by rw [he]; rfl) with hs | ⟨call, p, u, q, hi, hp, -⟩
  · -- the list of prompts has become longer
    rw [hs] at hasked
    simp at hasked
  · rw [he] at hp
    cases hp with
    | show_ => exact ⟨call, _, hi, rfl⟩
    | decline hg => cases hg
    | collide hg => rcases hg with hg | hg <;> cases hg

/-- Prompts are shown by calls that have their turn. A prompt is shown in a session that has decided exactly
if the call was overtaken, that is if somebody decided from outside since it got its turn. -/
theorem decided_iff_overtaken_when_shown (r : Run) :
    (∀ n, (r.session (n + 1)).asked ≠ (r.session n).asked → ∃ i prompt, r.Shows n i prompt) ∧
    ∀ n i prompt, r.Shows n i prompt →
      (r.session n).holder = some i ∧
        ((r.session n).consent.askedOnce = true ↔ r.Overtaken n i) := by
  refine ⟨fun n => exists_shows, fun n i prompt h => ?_⟩
  have hh : (r.session n).holder = some i := (r.turnHeld n i).mpr h.asks
  exact ⟨hh, overtaken_iff hh⟩

/-- The reply to the prompt is not understood, after the person said yes: they are asked again. -/
theorem prompt_shown_after_yes :
    ∃ prompt, (overtakenBy [.reply 0 (some "maybe"), .show_ 0]).Shows 5 0 prompt ∧
      ((overtakenBy [.reply 0 (some "maybe"), .show_ 0]).session 5).consent = ⟨.execute, true⟩ := by
  generalize hr : overtakenBy [.reply 0 (some "maybe"), .show_ 0] = r
  have h5 : (r.session 5).asked.length = 1 := by
    rw [← hr]
    decide +kernel
  have h6 : (r.session 6).asked.length = 2 := by
    rw [← hr]
    decide +kernel
  have hc : (r.session 5).consent = ⟨.execute, true⟩ := by
    rw [← hr]
    decide +kernel
  obtain ⟨i, prompt, h⟩ := exists_shows (r := r) (n := 5) fun heq => by
    rw [heq, h5] at h6
    cases h6
  have he : r.event 5 = .show_ 0 := by rw [← hr]; rfl
  obtain rfl : 0 = i := Event.show_.inj (he.symm.trans h.1)
  exact ⟨prompt, h, hc⟩

end Run
end PolicyGate
