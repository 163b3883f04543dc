import PolicyGate.Policy.Decision
import PolicyGate.Proofs.Attempt

/-!
# What a rule comes to

A rule takes part in a decision in three ways. It is triggered or not; if it is, its effect counts, or a denial if it
gave no answer; and its suggestions are rendered, which is the only thing that can go wrong. A rule that is not
triggered is only recorded (`consider_of_not_triggers`), and what a triggered one adds is one record
(`consider_of_triggers`).
-/

namespace PolicyGate

/-- The rule cannot say whether anything is wrong. -/
def Rule.IsStuck (args : Value) (context : Context) (rule : Rule) : Prop :=
  ∃ e, rule.violations args context = .error e

/-- The rule has something to say about the arguments. -/
def Rule.Triggers (args : Value) (context : Context) (rule : Rule) : Prop :=
  (Decision.outcome args context rule).1 ≠ []

instance (args : Value) (context : Context) (rule : Rule) : Decidable (rule.Triggers args context) :=
  inferInstanceAs (Decidable (_ ≠ _))

/-- The rule is triggered, and to the effect that the action is denied. -/
def Rule.Denies (args : Value) (context : Context) (rule : Rule) : Prop :=
  rule.Triggers args context ∧ (Decision.outcome args context rule).2 = .deny

/-- What a decision says of a triggered rule: its name, with all its messages in order. -/
def Rule.reason (args : Value) (context : Context) (rule : Rule) : String :=
  rule.id ++ ": " ++ String.intercalate "; " (Decision.outcome args context rule).1

/-- All suggestions of the rule can be rendered. -/
def Rule.Advises (context : Context) (rule : Rule) : Prop :=
  ∀ s ∈ rule.suggestions, ∃ t, s.rendered context = .ok t

/-- Some check of the rule gives no answer. -/
def Rule.HasStuckCheck (args : Value) (rule : Rule) : Prop :=
  ∃ check ∈ rule.checks, ∃ cause, check.violation args = .error cause

/-! ## What the checks of a rule find -/

namespace Rule

open Attempt

variable {args : Value} {context : Context} {rule : Rule} {found : List (Option String)}

/-- A rule with checks has their messages, or the failure of one of them. -/
theorem violations_of_checks (hne : rule.checks ≠ []) : rule.violations args context =
    ((rule.checks.mapM (Check.violation args)).map fun found => found.filterMap fun message => message).mapError
      .check := by
  have hempty : ¬ rule.checks.isEmpty = true := by simpa using hne
  rw [violations, if_neg hempty]
  cases rule.checks.mapM (Check.violation args) with
  | ok found => rfl
  | error e => rfl

/-- A rule whose checks all give an answer has the messages of those that find something wrong. -/
theorem violations_of_mapM (hne : rule.checks ≠ []) (h : rule.checks.mapM (Check.violation args) = .ok found) :
    rule.violations args context = .ok (found.filterMap fun message => message) := by
  rw [violations_of_checks hne, h]
  rfl

/-- A rule with a check that gives no answer is stuck. -/
theorem isStuck_of_mapM {e : CheckError} (hne : rule.checks ≠ [])
    (h : rule.checks.mapM (Check.violation args) = .error e) : rule.IsStuck args context := by
  refine ⟨.check e, ?_⟩
  rw [violations_of_checks hne, h]
  rfl

theorem isStuck_iff (h : rule.checks ≠ []) : rule.IsStuck args context ↔ rule.HasStuckCheck args := by
  rcases exists_ok_or_error (rule.checks.mapM (Check.violation args)) with ⟨found, hok⟩ | ⟨e, he⟩
  · have hall := exists_mapM_ok.1 ⟨found, hok⟩
    constructor
    · rintro ⟨_, hstuck⟩
      rw [violations_of_mapM h hok] at hstuck
      cases hstuck
    · rintro ⟨check, hcheck, cause, hcause⟩
      obtain ⟨message, hm⟩ := hall check hcheck
      rw [hm] at hcause
      cases hcause
  · obtain ⟨check, hcheck, hcause⟩ := mapM_eq_error he
    exact ⟨fun _ => ⟨check, hcheck, e, hcause⟩, fun _ => isStuck_of_mapM h he⟩

end Rule

namespace Decision

open Attempt

variable {args : Value} {context : Context} {rule : Rule} {rules : List Rule} {d d' : Decision}

/-! ## One rule -/

theorem outcome_of_ok {messages : List String} (h : rule.violations args context = .ok messages) :
    outcome args context rule = (messages, rule.effect) := by
  simp only [outcome, h]

theorem outcome_of_error {e : RuleError} (h : rule.violations args context = .error e) :
    outcome args context rule = (["rule could not be evaluated"], .deny) := by
  simp only [outcome, h]

theorem triggers_of_isStuck (h : rule.IsStuck args context) : rule.Triggers args context := by
  obtain ⟨e, he⟩ := h
  simp [Rule.Triggers, outcome_of_error he]

/-- A rule without checks is triggered by every action. -/
theorem triggers_of_no_checks (h : rule.checks = []) : rule.Triggers args context := by
  unfold Rule.Triggers outcome Rule.violations
  simp only [h, List.isEmpty_nil, ↓reduceIte]
  split
  · rename_i messages hm
    split at hm
    · obtain rfl := Except.ok.inj hm
      exact List.cons_ne_nil _ _
    · cases hm
  · exact List.cons_ne_nil _ _

theorem denies_of_isStuck (h : rule.IsStuck args context) : rule.Denies args context := by
  obtain ⟨e, he⟩ := h
  exact ⟨triggers_of_isStuck ⟨e, he⟩, by rw [outcome_of_error he]⟩

/-- A rule that is meant to warn denies only when it is stuck. -/
theorem denies_iff_isStuck (hw : rule.effect = .warn) :
    rule.Denies args context ↔ rule.IsStuck args context := by
  constructor
  · rintro ⟨-, hd⟩
    rcases exists_ok_or_error (rule.violations args context) with ⟨messages, hm⟩ | he
    · rw [outcome_of_ok hm, hw] at hd
      cases hd
    · exact he
  · exact denies_of_isStuck

theorem consider_of_not_triggers (h : ¬ rule.Triggers args context) :
    consider args context d rule = .ok { d with evaluated := d.evaluated ++ [rule.id] } := by
  have hempty : (outcome args context rule).1 = [] := by
    simpa [Rule.Triggers] using h
  simp only [consider, hempty]
  rfl

/-- What a triggered rule makes of a decision when its suggestions have been rendered. -/
theorem consider_of_triggers (h : rule.Triggers args context) :
    consider args context d rule = (rule.suggestions.mapM (Suggestion.rendered context)).map fun suggestions =>
      { verdict := d.verdict.max (.ofEffect (outcome args context rule).2)
        reasons := d.reasons ++
          [rule.id ++ ": " ++ String.intercalate "; " (outcome args context rule).1]
        matched := d.matched ++ [rule.id]
        suggestions := d.suggestions ++ suggestions
        controls := extendDistinct d.controls rule.controls
        evaluated := d.evaluated ++ [rule.id] } := by
  have hne : ¬ (outcome args context rule).1.isEmpty := by
    simpa [Rule.Triggers] using h
  simp only [consider, if_neg hne]
  cases rule.suggestions.mapM (Suggestion.rendered context) with
  | ok suggestions => rfl
  | error e => rfl

end Decision
end PolicyGate
