import PolicyGate.Proofs.Consent.Standing

/-!
# What is executed, and on whose word

The theorems about a whole run that a person who is asked for consent relies on. An action that changes
state is executed only when the rules did not deny it at the start of its call and the session has decided
to execute (`executes_only_by_consent`). There is one decision, all calls that seek consent follow it, and
so no run both executes and simulates such actions (`one_decision_for_all`).
-/

namespace PolicyGate
namespace Run

open Session

variable {r : Run} {m n i : Nat} {call : Call} {d : Decision}

/-- A call that the rules deny is over as soon as it begins. -/
theorem Begins.denied (hb : r.Begins m i call) (hv : (r.session m).verdictOn call = .ok d)
    (hc : (r.session m).isStateChanging call.action = true) (hd : d.verdict = .deny) :
    r.session (m + 1) = (r.session m).land i call (.done (.blocked call d .policyDeny)) := by
  obtain ⟨u, q, hp, hs⟩ := hb.progress
  rw [hs]
  cases hp with
  | undecidable hv' =>
    rw [hv] at hv'
    cases hv'
  | harmless _ hc' =>
    rw [hc] at hc'
    cases hc'
  | denied hv' =>
    rw [hv] at hv'
    obtain rfl := Except.ok.inj hv'
    rfl
  | late hs' | alone hs' | enter hs' | line hs' =>
    have hv' := hs'.decided
    rw [hv] at hv'
    obtain rfl := Except.ok.inj hv'
    exact absurd hd hs'.undenied

/-- If a call is over at the moment after it begins, this is the only moment at which it has an effect. -/
theorem Begins.only_effect {res : GateResult} (hb : r.Begins m i call)
    (hdone : (r.session (m + 1)).call? i = some (call, .done res)) (hn : n ≠ m)
    (h : (r.event n).subject? = some i) : r.session (n + 1) = r.session n := by
  rcases subject_cases h with hs | ⟨call', p, u, q, hi, hp, hs⟩
  · exact hs
  · exfalso
    rcases Nat.lt_or_gt_of_ne hn with hlt | hgt
    · -- progress before its beginning would have taken it away from there
      have hq : (r.session (n + 1)).call? i = some (call', q) := by
        rw [hs]
        exact hp.call?_self hi
      obtain rfl := r.call_unique hq hb.2
      exact r.not_ready_stays hlt hq hp.ne_ready hb.2
    · have hi' := r.done_stays hgt hdone
      rw [hi] at hi'
      simp only [Option.some.injEq, Prod.mk.injEq] at hi'
      obtain ⟨-, rfl⟩ := hi'
      exact Progress.not_done hp

/-- Actions are executed by calls, and by these only. The call began at exactly one moment, with the
decision that it carries, and if its action was one that changes state then the decision was no denial, and
the session is set to execute at the moment at which the action is handed over (the moment after the event,
because the reply that decides may be the event). A call that is simulated or blocked never executes
anything. One whose action changes state and is denied is blocked by the rules at once, whatever the session
has decided; it shows no prompt, records nothing, and no other event of it has any effect. -/
theorem executes_only_by_consent (r : Run) :
    (∀ n, (r.session (n + 1)).ran ≠ (r.session n).ran → ∃ i call d, r.Executes n i call d) ∧
    (∀ n i call d, r.Executes n i call d →
      ∃ m ≤ n, r.Begins m i call ∧ (∀ m' call', r.Begins m' i call' → m' = m) ∧
        (r.session m).verdictOn call = .ok d ∧
        ((r.session m).isStateChanging call.action = true →
          d.verdict ≠ .deny ∧ (r.session (n + 1)).consent.mode = .execute)) ∧
    (∀ n i call res, (r.session n).call? i = some (call, .done res) → res.status ≠ .executed →
      ∀ k call' d, ¬ r.Executes k i call' d) ∧
    (∀ m i call d, r.Begins m i call → (r.session m).verdictOn call = .ok d →
      (r.session m).isStateChanging call.action = true → d.verdict = .deny →
        (r.session (m + 1)).call? i = some (call, .done (.blocked call d .policyDeny)) ∧
        (r.session (m + 1)).consent = (r.session m).consent ∧
        (r.session (m + 1)).asked = (r.session m).asked ∧
        ∀ n ≠ m, (r.event n).subject? = some i → r.session (n + 1) = r.session n) := by
  refine ⟨fun n => exists_executes, ?_, fun n i call res hi hres => not_executes hi hres, ?_⟩
  · rintro n i call d ⟨-, hi, -⟩
    obtain ⟨m, hm, hb, hv, hc⟩ := r.standing hi
    refine ⟨m, Nat.le_of_lt_succ hm, hb, fun m' call' hb' => hb'.unique hb, hv, fun hs => ?_⟩
    exact ⟨(hc hs).1, by rw [(hc hs).2]⟩
  · intro m i call d hb hv hc hd
    have hs := hb.denied hv hc hd
    have hdone : (r.session (m + 1)).call? i
        = some (call, .done (.blocked call d .policyDeny)) := by
      rw [hs]
      exact call?_land_self hb.2 _ _
    refine ⟨hdone, by rw [hs, land_consent], by rw [hs, land_asked], fun n hn h => ?_⟩
    exact hb.only_effect hdone hn h

/-! ### A run with a denied call and one that is executed -/

/-- What is purged must be given a reason. -/
def purgeNeedsReason : RuleSet where
  rules := [{ id := "purge", description := "", target := .action "azure.purge", effect := .deny,
              checks := [{ path := "reason", test := .present }] }]

def purge : Call := { action := "azure.purge" }

def create : Call := { action := "azure.create" }

/-- A run with two calls. The rules deny the first one, and the person says yes to the second. -/
def secondApproved : Run :=
  .ofList {} purgeNeedsReason
    [.arrive purge, .arrive create, .begin 0, .begin 1, .show_ 1, .reply 1 (some "yes"),
      .finish 1 (.ok .null)]

theorem secondApproved_begins_purge : secondApproved.Begins 2 0 purge := ⟨rfl, rfl⟩

theorem secondApproved_denies_purge :
    ∃ d, (secondApproved.session 2).verdictOn purge = .ok d ∧ d.verdict = .deny := by
  have h : ((secondApproved.session 2).verdictOn purge).toOption.map (·.verdict) = some .deny := by
    decide +kernel
  cases hd : (secondApproved.session 2).verdictOn purge with
  | ok d =>
    rw [hd] at h
    exact ⟨d, rfl, Option.some.inj h⟩
  | error x =>
    rw [hd] at h
    cases h

theorem secondApproved_begins_create : secondApproved.Begins 3 1 create := by
  obtain ⟨d, hv, hd⟩ := secondApproved_denies_purge
  have hs := secondApproved_begins_purge.denied hv (by decide +kernel) hd
  refine ⟨rfl, ?_⟩
  rw [hs, call?_land_ne (by decide)]
  rfl

theorem secondApproved_executes_create : ∃ call d, secondApproved.Executes 5 1 call d := by
  have h5 : (secondApproved.session 5).ran.length = 0 := by decide +kernel
  have h6 : (secondApproved.session 6).ran.length = 1 := by decide +kernel
  obtain ⟨i, call, d, h⟩ := exists_executes (r := secondApproved) (n := 5) fun heq => by
    rw [heq, h5] at h6
    cases h6
  obtain rfl : 1 = i := Option.some.inj h.1
  exact ⟨call, d, h⟩

/-- In it one call is executed with consent, and the other is blocked by the rules. -/
theorem create_executed_and_purge_denied :
    (∃ call d, secondApproved.Executes 5 1 call d ∧ d.verdict ≠ .deny ∧
      (secondApproved.session 6).consent.mode = .execute) ∧
    ∃ d, (secondApproved.session 3).call? 0 = some (purge, .done (.blocked purge d .policyDeny)) := by
  obtain ⟨-, hex, -, hden⟩ := executes_only_by_consent secondApproved
  constructor
  · obtain ⟨call, d, h⟩ := secondApproved_executes_create
    obtain ⟨m, -, hb, huniq, -, hc⟩ := hex 5 1 call d h
    obtain rfl := huniq 3 create secondApproved_begins_create
    obtain rfl := secondApproved.call_unique secondApproved_begins_create.2 hb.2
    exact ⟨create, d, h, hc (by decide +kernel)⟩
  · obtain ⟨d, hv, hd⟩ := secondApproved_denies_purge
    exact ⟨d, (hden 2 0 purge d secondApproved_begins_purge hv (by decide +kernel) hd).1⟩

/-! ## One decision for all -/

variable (r) in
/-- Call `i` is one whose action changes state. -/
def ChangesState (i : Nat) : Prop :=
  ∃ m call, r.Begins m i call ∧ (r.session m).isStateChanging call.action = true

variable (r) in
/-- The action of call `i` is executed at some moment. -/
def Executed (i : Nat) : Prop := ∃ n call d, r.Executes n i call d

variable (r) in
/-- Call `i` is simulated at some moment. -/
def Simulated (i : Nat) : Prop :=
  ∃ n call res, r.Completes n i call res ∧ res.status = .simulated

/-- An action that is being executed was handed over. -/
theorem executed_of_running (hi : (r.session n).call? i = some (call, .running d)) :
    r.Executed i := by
  induction n with
  | zero => simp [session, Session.call?] at hi
  | succ n ih =>
    rcases r.call?_next_cases hi with h | ⟨-, hq⟩ | ⟨p, u, _, hp, hs⟩
    · exact ih h
    · cases hq
    · refine ⟨n, call, d, hp.subject?, hi, ?_⟩
      rw [hs, land_running_ran, hp.ran]

theorem Completes.executed {res : GateResult} (h : r.Completes n i call res)
    (hres : res.status = .executed) : r.Executed i := by
  obtain ⟨p, u, hi, hp, -⟩ := h.progress
  generalize r.event n = e at hp
  generalize hq : Phase.done res = q at hp
  cases hp with
  | finish => exact executed_of_running hi
  | denied | alone =>
    obtain rfl := Phase.done.inj hq
    cases hres
  | late | pass | settle | decline =>
    exact absurd hres (Phase.status_of_following hq.symm)
  | _ => cases hq

/-- Calls are simulated only when that is what the session has decided. -/
theorem Completes.simulated {res : GateResult} (h : r.Completes n i call res)
    (hres : res.status = .simulated) : (r.session (n + 1)).consent = ⟨.simulate, true⟩ := by
  obtain ⟨p, u, hi, hp, hs⟩ := h.progress
  rw [hs, land_consent]
  generalize r.event n = e at hp
  generalize hq : Phase.done res = q at hp
  cases hp with
  | late _ ha | pass _ _ ha =>
    rw [← ha, ← Phase.mode_of_following hq.symm hres]
  | settle => rw [← Phase.mode_of_following hq.symm hres]
  | decline => cases Phase.mode_of_following hq.symm hres
  | denied | alone =>
    obtain rfl := Phase.done.inj hq
    cases hres
  | finish =>
    obtain rfl := Phase.done.inj hq
    rw [GateResult.executed_status] at hres
    cases hres
  | _ => cases hq

/-- A session has been asked exactly if its mode is a decision. Over a run its consent changes at most once,
from nothing decided to some mode, and every call that seeks consent and gets its outcome by that event or
later gets the outcome which this mode prescribes. An executed outcome means that the action was handed
over, and no run both does this with an action that changes state and simulates a call. -/
theorem one_decision_for_all (r : Run) :
    (∀ n, (r.session n).consent.askedOnce = true ↔
      (r.session n).consent.mode = .execute ∨ (r.session n).consent.mode = .simulate ∨
        (r.session n).consent.mode = .deny) ∧
    ((∀ n, (r.session n).consent = .fresh) ∨
      ∃ k mode, mode.isDecided = true ∧ (∀ n ≤ k, (r.session n).consent = .fresh) ∧
        (∀ n > k, (r.session n).consent = ⟨mode, true⟩) ∧
        ∀ m n i call d res, r.Begins m i call → (r.session m).Seeks call d →
          r.Completes n i call res → k ≤ n → res.Obeys mode call d) ∧
    (∀ n i call res, r.Completes n i call res → res.status = .executed → r.Executed i) ∧
    ∀ i j, r.ChangesState i → ¬ (r.Executed i ∧ r.Simulated j) := by
  refine ⟨fun n => (r.latched n).askedOnce_iff, ?_, fun _ _ _ _ h => h.executed, ?_⟩
  · rcases r.consent_history with h | ⟨k, mode, hm, hbefore, hafter⟩
    · exact .inl h
    · refine .inr ⟨k, mode, hm, hbefore, hafter, fun m n i call d res hb hd hc hkn => ?_⟩
      have hmode := hafter (n + 1) (Nat.lt_succ_of_le hkn)
      have := hc.obeys hb hd (by rw [hmode])
      rwa [hmode] at this
  · rintro i j ⟨m, call, hb, hch⟩ ⟨⟨n, call', d, hex⟩, ⟨n', call'', res, hc, hres⟩⟩
    -- both events show the decision of the session, and there is only one
    obtain ⟨m', -, hb', -, hcon⟩ := r.standing hex.2.1
    obtain rfl := r.call_unique hb.2 hb'.2
    obtain rfl := hb.unique hb'
    have h1 := (hcon hch).2
    have h2 := hc.simulated hres
    rcases Nat.le_total (n + 1) (n' + 1) with hle | hle
    · rw [r.consent_stays hle (by rw [h1]), h1] at h2
      cases h2
    · rw [r.consent_stays hle (by rw [h2]), h2] at h1
      cases h1

/-- In the run above, the reply to the prompt decides, and nothing is ever simulated. -/
theorem secondApproved_decides_once :
    (∀ n ≤ 5, (secondApproved.session n).consent = .fresh) ∧
      (∀ n > 5, (secondApproved.session n).consent = ⟨.execute, true⟩) ∧
        ∀ j, ¬ secondApproved.Simulated j := by
  obtain ⟨-, honce, -, hmix⟩ := one_decision_for_all secondApproved
  have h5 : (secondApproved.session 5).consent = .fresh := by decide +kernel
  have h6 : (secondApproved.session 6).consent = ⟨.execute, true⟩ := by decide +kernel
  refine ⟨?_, ?_, ?_⟩
  · rcases honce with hfresh | ⟨k, mode, -, hbefore, hafter, -⟩
    · exact fun n _ => hfresh n
    · have hk : 5 ≤ k := Nat.le_of_not_lt fun hlt => by
        rw [hafter 5 hlt] at h5
        cases h5
      exact fun n hn => hbefore n (Nat.le_trans hn hk)
  · rcases honce with hfresh | ⟨k, mode, -, hbefore, hafter, -⟩
    · rw [hfresh] at h6
      cases h6
    · have hk : k < 6 := Nat.lt_of_not_le fun hle => by
        rw [hbefore 6 hle] at h6
        cases h6
      have hmode := (hafter 6 hk).symm.trans h6
      intro n hn
      rw [← hmode]
      exact hafter n (Nat.lt_of_lt_of_le hk hn)
  · obtain ⟨call, d, h⟩ := secondApproved_executes_create
    have hch : secondApproved.ChangesState 1 :=
      ⟨3, create, secondApproved_begins_create, by decide +kernel⟩
    exact fun j hj => hmix 1 j hch ⟨⟨5, call, d, h⟩, hj⟩

end Run
end PolicyGate
