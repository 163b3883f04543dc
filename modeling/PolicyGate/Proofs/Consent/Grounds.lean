import PolicyGate.Proofs.Consent.Served
import PolicyGate.Proofs.Consent.Standing
import PolicyGate.Proofs.Policy.Folding

/-!
# A call that is blocked is told why

The reasons of a decision begin with the names of the rules, so they are not empty even if a description renders to
nothing. What has to be shown is that there are any. The rules give some whenever one of them is triggered, and
that is so whenever the verdict is not `allow` (`Decision.SaysWhy`).

The gate passes these reasons on only if a rule is triggered, and says something of its own unless the rules deny
the action. So each of the three ways in which a call is blocked has its own argument (`GateResult.saysWhy_blocked`),
and the denial is the one that rests on the rules. The decision is made when the call begins and its outcome comes
later, so what is known of the decision is carried along while the call waits (`Session.Grounded`).
-/

namespace PolicyGate

theorem append_ne_empty {a b : String} (h : a ≠ "" ∨ b ≠ "") : a ++ b ≠ "" := by
  rw [Ne, String.append_eq_empty_iff]
  rintro ⟨ha, hb⟩
  exact h.elim (· ha) (· hb)

/-! ## Decisions -/

/-- A triggered rule says something, whatever its texts are. -/
theorem Rule.reason_ne_empty (args : Value) (context : Context) (rule : Rule) : rule.reason args context ≠ "" :=
  append_ne_empty (.inl (append_ne_empty (.inr (by decide))))

/-- The decision says why: what it says is not empty, and it has one reason for every triggered rule, of which there
is one unless the action is allowed. -/
structure Decision.SaysWhy (d : Decision) : Prop where
  spoken : ∀ reason ∈ d.reasons, reason ≠ ""
  triggered : d.verdict ≠ .allow → d.matched ≠ []
  each : d.matched ≠ [] → d.reasons.length = d.matched.length

namespace Decision

variable {d : Decision} {rules : List Rule} {action : String} {args : Value} {context : Context}

theorem SaysWhy.reasons_ne_nil (h : d.SaysWhy) (hm : d.matched ≠ []) : d.reasons ≠ [] := by
  refine List.ne_nil_of_length_pos ?_
  rw [h.each hm]
  exact List.length_pos_of_ne_nil hm

theorem SumsUp.saysWhy (h : d.SumsUp rules action args context) : d.SaysWhy where
  spoken reason hr := by
    rw [h.reasons] at hr
    split at hr
    · rw [List.mem_singleton.1 hr]
      exact append_ne_empty (.inr (by decide))
    · obtain ⟨rule, -, rfl⟩ := List.mem_map.1 hr
      exact rule.reason_ne_empty args context
  triggered hv hnone := hv (h.verdict_eq_allow_iff.2 hnone)
  each hsome := by
    rw [h.matched, Ne, List.map_eq_nil_iff] at hsome
    obtain ⟨rule, hr⟩ := List.exists_mem_of_ne_nil _ hsome
    rw [h.reasons_of_mem hr, h.matched, List.length_map, List.length_map]

end Decision

/-! ## Outcomes -/

/-- The outcome of a blocked call says why: there is a ground on which it is blocked, what it is told is not empty,
and if a rule is triggered then nothing that the decision says is left out. -/
structure GateResult.SaysWhy (res : GateResult) : Prop where
  ground : res.blockReason ≠ none
  told : res.reasons ≠ []
  spoken : ∀ reason ∈ res.reasons, reason ≠ ""
  complete : res.decision.matched ≠ [] → ∀ reason ∈ res.decision.reasons, reason ∈ res.reasons

namespace GateResult

variable {call : Call} {d : Decision} {why : BlockReason}

theorem reasonsOf_of_matched (hm : d.matched ≠ []) : reasonsOf d = d.reasons :=
  if_neg (by rwa [List.isEmpty_iff])

theorem notice_ne_nil (hwhy : why ≠ .policyDeny) : notice call why ≠ [] := by
  cases why with
  | policyDeny => exact absurd rfl hwhy
  | consentRequired | consentDeclined => exact List.cons_ne_nil _ _

theorem notice_ne_empty : ∀ text ∈ notice call why, text ≠ "" := by
  intro text ht
  cases why with
  | policyDeny => cases ht
  | consentRequired =>
    rw [List.mem_singleton.1 ht]
    exact append_ne_empty (.inr (by decide))
  | consentDeclined =>
    rw [List.mem_singleton.1 ht]
    decide

/-- A blocked call is told why, on whatever ground it is blocked. The rules have to account for a denial only. -/
theorem saysWhy_blocked (hd : d.SaysWhy) (hdeny : why = .policyDeny → d.verdict = .deny) :
    (blocked call d why).SaysWhy where
  ground := Option.some_ne_none why
  told hnil := by
    obtain ⟨hnotice, hreasons⟩ := List.append_eq_nil_iff.1 hnil
    by_cases hwhy : why = .policyDeny
    · have hm : d.matched ≠ [] := hd.triggered (by rw [hdeny hwhy]; exact Verdict.noConfusion)
      rw [reasonsOf_of_matched hm] at hreasons
      exact hd.reasons_ne_nil hm hreasons
    · exact notice_ne_nil hwhy hnotice
  spoken reason hr := by
    rcases List.mem_append.1 hr with hr | hr
    · exact notice_ne_empty reason hr
    · unfold reasonsOf at hr
      split at hr
      · cases hr
      · exact hd.spoken reason hr
  complete hm reason hr := by
    refine List.mem_append_right _ ?_
    rw [reasonsOf_of_matched (d := d) hm]
    exact hr

end GateResult

/-! ## Sessions -/

/-- The decision that the call carries says why, and so does its outcome if it is blocked. -/
def Phase.Grounded : Phase → Prop
  | .queued d | .asking d _ _ | .running d => d.SaysWhy
  | .done res => res.status = .blocked → res.SaysWhy
  | .ready | .failed _ => True

theorem Phase.grounded_following {mode : ConsentMode} {call : Call} {d : Decision} (hd : d.SaysWhy) :
    (following mode call d).Grounded := by
  cases mode with
  | execute => exact hd
  | simulate => exact nofun
  | deny | undecided => exact fun _ => GateResult.saysWhy_blocked hd nofun

namespace Session

variable {s t u : Session} {i : Nat} {call : Call} {d : Decision} {e : Event} {p q : Phase}

/-- What the rules say about a call says why. -/
theorem saysWhy_of_verdictOn (h : s.verdictOn call = .ok d) : d.SaysWhy :=
  (Decision.sumsUp_of_ofRules h).saysWhy

/-- The step: what is known of the decision stays known, and justifies the outcome. -/
theorem Progress.grounded (h : Progress s i call e p u q) (hp : p.Grounded) : q.Grounded := by
  cases h with
  | undecidable | abandon | collide | promptFails => trivial
  | cancelReady | cancelQueued | cancelRunning => trivial
  | harmless he => exact saysWhy_of_verdictOn he
  | denied he _ hd => exact fun _ => GateResult.saysWhy_blocked (saysWhy_of_verdictOn he) fun _ => hd
  | late hs => exact Phase.grounded_following (saysWhy_of_verdictOn hs.decided)
  | alone hs => exact fun _ => GateResult.saysWhy_blocked (saysWhy_of_verdictOn hs.decided) nofun
  | enter hs | line hs => exact saysWhy_of_verdictOn hs.decided
  | pass | settle | decline => exact Phase.grounded_following hp
  | takeTurn | show_ | retry => exact hp
  | @finish d answer =>
    intro hblocked
    rw [GateResult.executed_status] at hblocked
    cases hblocked

/-- Every call of the session is accounted for. -/
def Grounded (s : Session) : Prop := ∀ i call p, s.call? i = some (call, p) → p.Grounded

theorem grounded_change (hs : s.Grounded) (h : Change s e t) : t.Grounded := by
  intro i call q hi
  rcases h.call?_cases hi with hold | ⟨-, rfl⟩ | ⟨p, u, hold, hp, -⟩
  · exact hs i call q hold
  · trivial
  · exact hp.grounded (hs i call p hold)

theorem Leads.grounded (h : s.Leads t) (hs : s.Grounded) : t.Grounded := by
  induction h with
  | refl => exact hs
  | @after t e _ ih =>
    rcases t.after_cases e with hc | ⟨hsame, -⟩
    · exact grounded_change ih hc
    · rw [hsame]
      exact ih

end Session

/-! ## Every decision and every blocked call -/

/-- A decision that does not simply allow the action has reasons, and they are not empty. And a call that is blocked
is told on which ground, and gets reasons that are not empty; if a rule is triggered then all reasons of the decision
are among them. This holds for whatever texts there are in the rules, and for any session, however it is set up,
whatever consent it begins with, and whatever happens in it. -/
theorem blocked_calls_say_why :
    (∀ (set : RuleSet) (action : String) (args : Value) (context : Context) (d : Decision),
      set.evaluate action args context = .ok d → d.verdict ≠ .allow →
        d.reasons ≠ [] ∧ ∀ reason ∈ d.reasons, reason ≠ "") ∧
    (∀ s t : Session, s.calls = [] → s.Leads t → ∀ (i : Nat) (call : Call) (res : GateResult),
      t.call? i = some (call, .done res) → res.status = .blocked → res.SaysWhy) := by
  constructor
  · intro set action args context d hd hv
    have hwhy := (Decision.sumsUp_of_ofRules hd).saysWhy
    exact ⟨hwhy.reasons_ne_nil (hwhy.triggered hv), hwhy.spoken⟩
  · intro s t hnew hleads i call res hi hblocked
    refine hleads.grounded ?_ i call _ hi hblocked
    intro i call p hi
    rw [Session.call?, hnew] at hi
    cases hi

/-! ### A rule without words -/

/-- A rule with no name, whose description is the name of somebody. -/
def wordless (effect : Effect) : RuleSet where
  rules := [{ id := "", description := "\x7b\x7bwho\x7d\x7d", target := .space "azure", effect }]

/-- A call on behalf of somebody with no name. -/
def nameless : Call := { action := "azure.create", context := [(.str "who", .str "")] }

/-- The session in which a call on behalf of nobody has begun, and nobody can be asked. -/
def Session.begunAlone (effect : Effect) : Session :=
  (({ config := { canAsk := false }, rules := wordless effect } : Session).after (.arrive nameless)).after (.begin 0)

/-- What a call that is done has answered. -/
def Phase.answer? : Phase → Option GateResult
  | .done res => some res
  | _ => none

theorem Phase.answer?_eq_some_iff {p : Phase} {res : GateResult} : p.answer? = some res ↔ p = .done res := by
  cases p <;> simp [answer?]

/-- The reasons that the rule gives are next to nothing, but they are reasons. The rule warns, and nobody is there to
consent; or it denies the action. -/
theorem wordless_says_why :
    (∃ d, (wordless .warn).evaluate nameless.action nameless.args nameless.context = .ok d ∧ d.reasons = [": "] ∧
      d.reasons ≠ [] ∧ ∀ reason ∈ d.reasons, reason ≠ "") ∧
    ∀ effect, ∃ call res, (Session.begunAlone effect).call? 0 = some (call, .done res) ∧ res.status = .blocked ∧
      res.decision.matched = [""] ∧ res.SaysWhy := by
  constructor
  · have hdecides : (((wordless .warn).evaluate nameless.action nameless.args nameless.context).toOption.map fun d =>
        (d.verdict, d.reasons)) = some (.warn, [": "]) := by decide +kernel
    simp only [Option.map_eq_some_iff, Attempt.toOption_eq_some, Prod.mk.injEq] at hdecides
    obtain ⟨d, hd, hv, hreasons⟩ := hdecides
    have hwhy := blocked_calls_say_why.1 (wordless .warn) nameless.action nameless.args nameless.context d hd
      (by rw [hv]; decide)
    exact ⟨d, hd, hreasons, hwhy⟩
  · intro effect
    have hleads : Session.Leads { config := { canAsk := false }, rules := wordless effect }
        (Session.begunAlone effect) := .after _ (.after _ .refl)
    have hblocked : (((Session.begunAlone effect).call? 0).bind fun c => c.2.answer?.map fun res =>
        (res.status, res.decision.matched)) = some (.blocked, [""]) := by
      cases effect <;> decide +kernel
    simp only [Option.bind_eq_some_iff, Option.map_eq_some_iff, Prod.mk.injEq] at hblocked
    obtain ⟨⟨call, p⟩, hi, res, hres, hstatus, hmatched⟩ := hblocked
    have hdone : p = .done res := Phase.answer?_eq_some_iff.1 hres
    rw [hdone] at hi
    exact ⟨call, res, hi, hstatus, hmatched, blocked_calls_say_why.2 _ _ rfl hleads 0 call res hi hstatus⟩

end PolicyGate
