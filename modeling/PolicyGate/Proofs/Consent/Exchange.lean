import PolicyGate.Proofs.Consent.Execution

/-!
# Rules that are exchanged while a call waits

The rules decide on a call when it begins. The call acts on their decision after it has waited for its turn
and for a reply, and the rules may be exchanged meanwhile. Nobody asks them a second time.

So what counts for a call is what the rules of its beginning said, and a consent never overrides that. At
the moment of execution the rules in force say the same, unless they were put in force after the call had
begun (`Run.executes_undenied_unless_reloaded`). The run after the theorem shows that the condition is
needed: rules that come while the person reads the prompt do not hold back the action.
-/

namespace PolicyGate

namespace Run

open Session

variable {r : Run} {m n i : Nat} {call : Call} {d : Decision}

/-- The rules are those of an earlier moment, or they were put in force since. -/
theorem rules_since (r : Run) (hmn : m ≤ n) :
    (r.session n).rules = (r.session m).rules ∨
      ∃ k, m ≤ k ∧ k < n ∧ r.event k = .reload (r.session n).rules := by
  induction hmn with
  | refl => exact .inl rfl
  | @step n hmn ih =>
    have same : (r.session (n + 1)).rules = (r.session n).rules ∨
        r.event n = .reload (r.session (n + 1)).rules := by
      rcases r.next_cases n with h | ⟨h, -⟩
      · exact h.rules
      · exact .inl (by rw [h])
    rcases same with heq | he
    · rw [heq]
      rcases ih with ih | ⟨k, hmk, hkn, he⟩
      · exact .inl ih
      · exact .inr ⟨k, hmk, Nat.lt_succ_of_lt hkn, he⟩
    · exact .inr ⟨n, hmn, Nat.lt_succ_self n, he⟩

/-- A call whose action is executed has just begun and changes no state, or needed a person's consent when
it began. -/
theorem Executes.begins_or_sought (h : r.Executes n i call d) :
    (r.Begins n i call ∧ (r.session n).verdictOn call = .ok d ∧
        (r.session n).isStateChanging call.action = false) ∨
      r.Sought (n + 1) i call d := by
  obtain ⟨hsub, hrun, hran⟩ := h
  rcases subject_cases hsub with hs | ⟨call', p, u, q, hi, hp, hs⟩
  · -- the list of executed actions has become longer
    rw [hs] at hran
    simp at hran
  · obtain ⟨rfl, rfl⟩ : call' = call ∧ q = .running d := by
      have hq := hp.call?_self hi
      rw [← hs, hrun] at hq
      simpa [eq_comm] using hq
    have hst := r.standing hi
    generalize he : r.event n = e at hp
    generalize hq : Phase.running d = q at hp
    cases hp with
    | harmless hv hc =>
      obtain rfl := Phase.running.inj hq
      exact .inl ⟨⟨he, hi⟩, hv, hc⟩
    | late hd =>
      obtain ⟨-, rfl⟩ := Phase.following_eq_running hq.symm
      exact .inr ⟨n, Nat.lt_succ_self n, ⟨he, hi⟩, hd⟩
    | pass | settle =>
      obtain ⟨-, rfl⟩ := Phase.following_eq_running hq.symm
      exact .inr (Sought.later hst)
    | decline => cases (Phase.following_eq_running hq.symm).1
    | _ => cases hq

/-- The rules in force when an action is executed say about its call what the rules said when it began, or
they were put in force after it had begun. -/
theorem Executes.verdictOn_or_reloaded (h : r.Executes n i call d) (hm : m ≤ n)
    (hb : r.Begins m i call) (hv : (r.session m).verdictOn call = .ok d) :
    (r.session (n + 1)).verdictOn call = .ok d ∨
      ∃ k, m < k ∧ k < n ∧ r.event k = .reload (r.session (n + 1)).rules := by
  rcases r.rules_since (Nat.le_succ_of_le hm) with heq | ⟨k, hmk, hkn, he⟩
  · rw [verdictOn_congr heq]
    exact .inl hv
  · -- neither its beginning nor its execution exchanges the rules
    have hne : k ≠ m := by
      rintro rfl
      rw [hb.1] at he
      cases he
    have hne' : k ≠ n := by
      rintro rfl
      have hsub := h.1
      rw [he] at hsub
      cases hsub
    exact .inr ⟨k, Nat.lt_of_le_of_ne hmk hne.symm,
      Nat.lt_of_le_of_ne (Nat.le_of_lt_succ hkn) hne', he⟩

/-- When an action that changes state is executed, the rules of the moment at which its call began did not
deny it, whatever was consented to and when. The rules in force now say just what those said, unless they
were put in force after the call had begun. Whether the action changes state may be asked of either
moment. -/
theorem executes_undenied_unless_reloaded (r : Run) :
    ∀ n i call d, r.Executes n i call d →
      ∃ m ≤ n, r.Begins m i call ∧ (r.session m).verdictOn call = .ok d ∧
        ((r.session m).isStateChanging call.action = true ∨
          (r.session (n + 1)).isStateChanging call.action = true → d.verdict ≠ .deny) ∧
        ((r.session (n + 1)).verdictOn call = .ok d ∨
          ∃ k, m < k ∧ k < n ∧ r.event k = .reload (r.session (n + 1)).rules) := by
  intro n i call d h
  rcases h.begins_or_sought with ⟨hb, hv, hc⟩ | ⟨m, hm, hb, hs⟩
  · have hsince := h.verdictOn_or_reloaded (Nat.le_refl n) hb hv
    refine ⟨n, Nat.le_refl n, hb, hv, fun hch => ?_, hsince⟩
    -- no rules came in between, so the action changes state neither now nor then
    have hr : (r.session (n + 1)).rules = (r.session n).rules := by
      rcases r.rules_since (Nat.le_succ n) with heq | ⟨k, hnk, hkn, he⟩
      · exact heq
      · obtain rfl := Nat.le_antisymm hnk (Nat.le_of_lt_succ hkn)
        rw [hb.1] at he
        cases he
    have hconf : (r.session (n + 1)).config = (r.session n).config := by
      rw [r.session_config, r.session_config]
    rw [isStateChanging_congr hr hconf, hc] at hch
    simp at hch
  · have hmn := Nat.le_of_lt_succ hm
    exact ⟨m, hmn, hb, hs.decided, fun _ => hs.undenied,
      h.verdictOn_or_reloaded hmn hb hs.decided⟩

/-- In the run with two calls nothing is exchanged: what is executed is allowed now as it was before. -/
theorem create_allowed_when_executed :
    ∃ d, secondApproved.Executes 5 1 create d ∧
      (secondApproved.session 6).verdictOn create = .ok d ∧ d.verdict ≠ .deny := by
  obtain ⟨call, d, h⟩ := secondApproved_executes_create
  obtain ⟨m, -, hb, -, hd, hv⟩ := executes_undenied_unless_reloaded secondApproved 5 1 call d h
  obtain rfl := secondApproved.call_unique secondApproved_begins_create.2 hb.2
  obtain rfl := hb.unique secondApproved_begins_create
  refine ⟨d, h, ?_, hd (.inl (by decide +kernel))⟩
  rcases hv with hv | ⟨k, h3, h5, he⟩
  · exact hv
  · obtain rfl : k = 4 := by omega
    cases he

/-- A run in which rules that deny the only call are put in force while its prompt is before the person, who
then says yes. -/
def exchangedWhileAsking : Run :=
  .ofList {} {}
    [.arrive purge, .begin 0, .show_ 0, .reload purgeNeedsReason, .reply 0 (some "yes")]

/-- The action is executed although the rules in force deny it. -/
theorem executed_though_denied_now :
    ∃ d d', exchangedWhileAsking.Executes 4 0 purge d ∧
      (exchangedWhileAsking.session 5).isStateChanging purge.action = true ∧
        (exchangedWhileAsking.session 5).verdictOn purge = .ok d' ∧ d'.verdict = .deny := by
  have h4 : (exchangedWhileAsking.session 4).ran.length = 0 := by decide +kernel
  have h5 : (exchangedWhileAsking.session 5).ran.length = 1 := by decide +kernel
  obtain ⟨i, call, d, h⟩ := exists_executes (r := exchangedWhileAsking) (n := 4) fun heq => by
    rw [heq, h4] at h5
    cases h5
  obtain rfl : 0 = i := Option.some.inj h.1
  have h1 : (exchangedWhileAsking.session 1).call? 0 = some (purge, .ready) := rfl
  obtain rfl := exchangedWhileAsking.call_unique h1 h.2.1
  obtain ⟨d', hv, hd⟩ := secondApproved_denies_purge
  have hr : (exchangedWhileAsking.session 5).rules = (secondApproved.session 2).rules := by
    rcases exchangedWhileAsking.rules_since (m := 4) (n := 5) (by decide) with heq | ⟨k, h4, h5, he⟩
    · exact heq
    · obtain rfl : k = 4 := by omega
      cases he
  exact ⟨d, d', h, by decide +kernel, (verdictOn_congr hr purge).trans hv, hd⟩

end Run
end PolicyGate
