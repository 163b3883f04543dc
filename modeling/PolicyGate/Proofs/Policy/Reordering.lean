import Mathlib.Data.Multiset.Defs
import PolicyGate.Proofs.Policy.Folding

/-!
# Order makes no difference

The rules of a set in another order, each of them with its checks in another order, make the same decision but for
the order of what stands in it (`RuleSet.evaluate_reordered`). A rule says the same in another order when its checks
are in another order, and it is stuck if it was (`Rule.Shuffled.violations_cases`). So whatever a decision takes from
its rules one by one is the same up to order (`Rule.Reordered.map_perm`), and the verdict and the set of controls,
which it takes from all of them together, are the same.
-/

namespace PolicyGate

open Attempt

namespace Rule

variable {r r' : Rule} {rules rules' : List Rule} {action : String} {args : Value} {context : Context}

/-- All that a triggered rule has to say. -/
def messages (args : Value) (context : Context) (rule : Rule) : List String :=
  (Decision.outcome args context rule).1

/-- The same rule with its checks in another order. -/
inductive Shuffled : Rule → Rule → Prop where
  | checks {rule : Rule} {checks : List Check} (h : rule.checks.Perm checks) : Shuffled rule { rule with checks }

/-- The same rules in another order, each of them with its checks in another order. -/
def Reordered (rules rules' : List Rule) : Prop :=
  ∃ between, List.Forall₂ Shuffled rules between ∧ between.Perm rules'

/-! ## One rule -/

namespace Shuffled

theorem id_eq (h : Shuffled r r') : r.id = r'.id := by
  cases h
  rfl

theorem target_eq (h : Shuffled r r') : r.target = r'.target := by
  cases h
  rfl

theorem effect_eq (h : Shuffled r r') : r.effect = r'.effect := by
  cases h
  rfl

theorem suggestions_eq (h : Shuffled r r') : r.suggestions = r'.suggestions := by
  cases h
  rfl

theorem controls_eq (h : Shuffled r r') : r.controls = r'.controls := by
  cases h
  rfl

theorem isCalledFor_iff (h : Shuffled r r') : r.IsCalledFor args ↔ r'.IsCalledFor args := by
  obtain ⟨hperm⟩ := h
  have hnil : r.checks = [] ↔ _ = [] := ⟨fun h => (h ▸ hperm).nil_eq.symm, fun h => (h ▸ hperm).eq_nil⟩
  simp only [IsCalledFor, HasStuckCheck, hperm.mem_iff, hnil]

/-- The messages are the same in another order, or the rule is stuck both times. -/
theorem violations_cases (h : Shuffled r r') (args : Value) (context : Context) :
    (∃ ms ms', r.violations args context = .ok ms ∧ r'.violations args context = .ok ms' ∧ ms.Perm ms') ∨
      r.IsStuck args context ∧ r'.IsStuck args context := by
  obtain @⟨checks, hperm⟩ := h
  by_cases hne : r.checks = []
  · -- without checks there is nothing to put in another order
    obtain rfl : checks = [] := (hne ▸ hperm).nil_eq.symm
    have hsame : { r with checks := [] } = r := by
      rw [← hne]
    rw [hsame]
    rcases exists_ok_or_error (r.violations args context) with ⟨ms, hms⟩ | hstuck
    · exact .inl ⟨ms, ms, hms, hms, .refl ms⟩
    · exact .inr ⟨hstuck, hstuck⟩
  · have hne' : checks ≠ [] := fun h => hne (h ▸ hperm).eq_nil
    rcases exists_ok_or_error (r.checks.mapM (Check.violation args)) with ⟨found, hfound⟩ | ⟨e, he⟩
    · obtain ⟨found', hfound', hperm'⟩ := mapM_perm hperm hfound
      exact .inl ⟨_, _, violations_of_mapM hne hfound, violations_of_mapM hne' hfound', hperm'.filterMap _⟩
    · have hstuck := @isStuck_of_mapM args context r e hne he
      obtain ⟨check, hcheck, hcause⟩ := (isStuck_iff hne).1 hstuck
      exact .inr ⟨hstuck, (isStuck_iff hne').2 ⟨check, hperm.mem_iff.1 hcheck, hcause⟩⟩

theorem messages_perm (h : Shuffled r r') : (r.messages args context).Perm (r'.messages args context) := by
  rcases h.violations_cases args context with ⟨ms, ms', hms, hms', hperm⟩ | ⟨⟨e, he⟩, e', he'⟩
  · rw [messages, messages, Decision.outcome_of_ok hms, Decision.outcome_of_ok hms']
    exact hperm
  · rw [messages, messages, Decision.outcome_of_error he, Decision.outcome_of_error he']

theorem severity_eq (h : Shuffled r r') : r.severity args context = r'.severity args context := by
  rcases h.violations_cases args context with ⟨ms, ms', hms, hms', -⟩ | ⟨⟨e, he⟩, e', he'⟩
  · rw [severity, severity, hms, hms', h.effect_eq]
  · rw [severity, severity, he, he']

end Shuffled

/-! ## A list of rules -/

namespace Reordered

/-- What does not depend on the order of a rule's checks is the same of all rules, in another order. -/
theorem map_perm {β : Type} {f : Rule → β} (h : Reordered rules rules') (hf : ∀ {r r'}, Shuffled r r' → f r = f r') :
    (rules.map f).Perm (rules'.map f) := by
  obtain ⟨between, hshuffled, hperm⟩ := h
  have heq : rules.map f = between.map f := by
    refine List.forall₂_eq_eq_eq ▸ List.forall₂_map_left_iff.2 (List.forall₂_map_right_iff.2 ?_)
    exact hshuffled.imp fun _ _ => hf
  rw [heq]
  exact hperm.map f

theorem flatMap_perm {β : Type} {f : Rule → List β} (h : Reordered rules rules')
    (hf : ∀ {r r'}, Shuffled r r' → f r = f r') : (rules.flatMap f).Perm (rules'.flatMap f) := by
  rw [List.flatMap_def, List.flatMap_def]
  exact (h.map_perm hf).flatten

theorem filter {p : Rule → Bool} (h : Reordered rules rules') (hp : ∀ {r r'}, Shuffled r r' → p r = p r') :
    Reordered (rules.filter p) (rules'.filter p) := by
  obtain ⟨between, hshuffled, hperm⟩ := h
  have hsame : ∀ r r', Shuffled r r' → (p r = true ↔ p r' = true) := fun r r' hr => by
    rw [hp hr]
  exact ⟨between.filter p, List.rel_filter (fun r r' => hsame r r') hshuffled, hperm.filter p⟩

theorem applicable (h : Reordered rules rules') :
    Reordered (Decision.applicable rules action) (Decision.applicable rules' action) :=
  h.filter fun hr => by rw [hr.target_eq]

theorem triggered (h : Reordered rules rules') :
    Reordered (Decision.triggered rules action args) (Decision.triggered rules' action args) :=
  h.applicable.filter fun hr => decide_eq_decide.2 hr.isCalledFor_iff

end Reordered
end Rule

/-! ## Decisions -/

namespace Decision

variable {rules rules' : List Rule} {action : String} {args : Value} {context : Context} {d d' : Decision}

/-- What the triggered rules for an action report: each of them by its id, with its messages in any order. -/
def reports (rules : List Rule) (action : String) (args : Value) (context : Context) :
    List (String × Multiset String) :=
  (triggered rules action args).map fun rule => (rule.id, (rule.messages args context : Multiset String))

/-- The decisions are the same but for the order of what stands in them. -/
structure SameUpToOrder (d d' : Decision) : Prop where
  verdict : d.verdict = d'.verdict
  evaluated : d.evaluated.Perm d'.evaluated
  matched : d.matched.Perm d'.matched
  suggestions : d.suggestions.Perm d'.suggestions
  controls : ∀ control, control ∈ d.controls ↔ control ∈ d'.controls

open Rule (Shuffled Reordered)

/-- All triggered rules report the same. -/
theorem reports_perm (h : Reordered rules rules') :
    (reports rules action args context).Perm (reports rules' action args context) := by
  exact h.triggered.map_perm fun hr => Prod.ext hr.id_eq (Multiset.coe_eq_coe.2 hr.messages_perm)

/-- Whether there is a decision depends on the suggestions of the triggered rules only. -/
theorem exists_ofRules_of_reordered (hrules : Reordered rules rules')
    (h : ofRules rules action args context = .ok d) : ∃ d', ofRules rules' action args context = .ok d' := by
  obtain ⟨rendered, hrendered, -⟩ :=
    mapM_perm (hrules.triggered.flatMap_perm Shuffled.suggestions_eq) (sumsUp_of_ofRules h).suggestions
  rw [ofRules_eq_adding]
  exact ⟨_, map_eq_ok.2 ⟨rendered, hrendered, rfl⟩⟩

theorem SumsUp.sameUpToOrder (h : d.SumsUp rules action args context) (h' : d'.SumsUp rules' action args context)
    (hrules : Reordered rules rules') : d.SameUpToOrder d' := by
  constructor
  · rw [h.verdict_eq_worst, h'.verdict_eq_worst]
    exact Verdict.worst_perm (hrules.triggered.map_perm fun hr => hr.severity_eq)
  · rw [h.evaluated, h'.evaluated]
    exact hrules.applicable.map_perm Shuffled.id_eq
  · rw [h.matched, h'.matched]
    exact hrules.triggered.map_perm Shuffled.id_eq
  · obtain ⟨rendered, hrendered, hperm⟩ :=
      mapM_perm (hrules.triggered.flatMap_perm Shuffled.suggestions_eq) h.suggestions
    obtain rfl := Except.ok.inj (hrendered.symm.trans h'.suggestions)
    exact hperm
  · intro control
    rw [h.controls, h'.controls, List.mem_eraseDups, List.mem_eraseDups]
    exact (hrules.triggered.flatMap_perm Shuffled.controls_eq).mem_iff

end Decision

/-! ## Rule sets -/

namespace RuleSet

variable {set set' : RuleSet} {action : String} {args : Value} {context : Context} {d : Decision}

/-- The rules in another order, each of them with its checks in another order, make the same decision up to order,
and all of them that are triggered report the same. -/
theorem evaluate_reordered (hrules : Rule.Reordered set.rules set'.rules) (haliases : set.aliases = set'.aliases)
    (hd : set.evaluate action args context = .ok d) :
    ∃ d', set'.evaluate action args context = .ok d' ∧ d.SameUpToOrder d' ∧
      (Decision.reports set.rules (set.resolveAction action) args context).Perm
        (Decision.reports set'.rules (set'.resolveAction action) args context) := by
  have hresolve : set'.resolveAction action = set.resolveAction action := by
    rw [resolveAction, resolveAction, haliases]
  obtain ⟨d', hd'⟩ := Decision.exists_ofRules_of_reordered hrules hd
  have hsame := (Decision.sumsUp_of_ofRules hd).sameUpToOrder (Decision.sumsUp_of_ofRules hd') hrules
  rw [evaluate, hresolve]
  exact ⟨d', hd', hsame, Decision.reports_perm hrules⟩

/-! ### The last rule first -/

/-- The rules from the last to the first, and so are the checks of each. -/
def mirrored (set : RuleSet) : RuleSet :=
  { set with rules := (set.rules.map fun rule => { rule with checks := rule.checks.reverse }).reverse }

theorem reordered_mirrored : Rule.Reordered set.rules set.mirrored.rules :=
  ⟨_, List.forall₂_map_right_iff.2 (List.forall₂_same.2 fun rule _ => .checks (List.reverse_perm rule.checks).symm),
    (List.reverse_perm _).symm⟩

/-- The refused pattern now comes first of all, and it still makes the decision a denial, with the other findings. -/
theorem varied_reordered :
    ∃ d d', varied.evaluate "create" nameOnly asAnn = .ok d ∧
      varied.mirrored.evaluate "create" nameOnly asAnn = .ok d' ∧ d.SameUpToOrder d' ∧
      (Decision.reports varied.rules (varied.resolveAction "create") nameOnly asAnn).Perm
        (Decision.reports varied.mirrored.rules (varied.mirrored.resolveAction "create") nameOnly asAnn) ∧
      d'.verdict = .deny ∧ d'.reasons = ["broken: rule could not be evaluated",
        "parts: Field 'region' is required; Field 'owner' is required", "note: Ask Ann"] := by
  have hdecides : ((varied.mirrored.evaluate "create" nameOnly asAnn).toOption.map fun d => (d.verdict, d.reasons)) =
      some (.deny, ["broken: rule could not be evaluated",
        "parts: Field 'region' is required; Field 'owner' is required", "note: Ask Ann"]) := by
    decide +kernel
  simp only [Option.map_eq_some_iff, toOption_eq_some, Prod.mk.injEq] at hdecides
  obtain ⟨e, he, hresults⟩ := hdecides
  obtain ⟨d, hd, -⟩ := varied_denies
  obtain ⟨d', hd', hsame, hreports⟩ := evaluate_reordered reordered_mirrored rfl hd
  obtain rfl : e = d' := Except.ok.inj (he.symm.trans hd')
  exact ⟨d, e, hd, hd', hsame, hreports, hresults⟩

end RuleSet
end PolicyGate
