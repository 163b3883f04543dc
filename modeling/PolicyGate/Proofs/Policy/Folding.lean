import Mathlib.Data.List.Induction
import PolicyGate.Policy.RuleSet
import PolicyGate.Proofs.Policy.Verdict

/-!
# What a decision adds up to

A decision is folded from the rules one after the other, with six results carried along. Here each of them is given
for the list as a whole (`Decision.SumsUp`): which rules are recorded, which of them are triggered, and what the
triggered ones make of the verdict, the reasons, the suggestions and the controls. A rule is triggered by what its
checks say and by nothing else (`Rule.triggers_iff`), so none of this needs a look at the fold.

The fold itself is taken apart once, in `Decision.foldlM_consider`. When there is a decision at all
(`Decision.exists_ofRules`), when it is a denial (`Decision.verdict_of_ofRules`) and what reasons a denial has
(`Decision.reasons_of_deny`) can be read off the sums. They determine the decision (`Decision.SumsUp.unique`), so
that two lists of rules, one behind the other, come to their decisions put together (`Decision.SumsUp.join`) is
shown of the sums, too.
-/

namespace PolicyGate

open Attempt

/-! ## Severity -/

namespace Verdict

variable {a b : Verdict} {vs ws : List Verdict}

/-- The most severe of some verdicts; `allow` if there is none. -/
def worst (vs : List Verdict) : Verdict := vs.foldl max .allow

theorem rank_injective : Function.Injective rank := by
  intro a b h
  cases a <;> cases b <;> first | rfl | cases h

theorem max_allow_left (a : Verdict) : max .allow a = a := by
  cases a <;> rfl

theorem max_allow_right (a : Verdict) : max a .allow = a := by
  cases a <;> rfl

theorem max_assoc (a b c : Verdict) : max (max a b) c = max a (max b c) := by
  apply rank_injective
  simp only [rank_max]
  exact Nat.max_assoc _ _ _

theorem rank_le_deny (a : Verdict) : a.rank ≤ Verdict.deny.rank := by
  cases a <;> decide

theorem max_cases (a b : Verdict) : max a b = a ∨ max a b = b := by
  unfold max
  split
  · exact .inr rfl
  · exact .inl rfl

theorem foldl_max (a : Verdict) (vs : List Verdict) : vs.foldl max a = max a (worst vs) := by
  induction vs generalizing a with
  | nil => exact (max_allow_right a).symm
  | cons v vs ih => rw [worst, List.foldl_cons, List.foldl_cons, ih, ih, max_allow_left, max_assoc]

theorem worst_cons (v : Verdict) (vs : List Verdict) : worst (v :: vs) = max v (worst vs) := by
  rw [worst, List.foldl_cons, max_allow_left, foldl_max]

theorem worst_append (vs ws : List Verdict) : worst (vs ++ ws) = max (worst vs) (worst ws) := by
  rw [worst, List.foldl_append, foldl_max]
  rfl

/-- A verdict is the worst of some if it is one of them, or `allow`, and none of them is more severe. -/
theorem eq_worst_iff : a = worst vs ↔ a ∈ Verdict.allow :: vs ∧ ∀ v ∈ vs, v.rank ≤ a.rank := by
  have hworst : worst vs ∈ Verdict.allow :: vs ∧ ∀ v ∈ vs, v.rank ≤ (worst vs).rank := by
    induction vs with
    | nil => exact ⟨List.mem_cons_self, fun _ h => absurd h List.not_mem_nil⟩
    | cons v vs ih =>
      obtain ⟨hmem, hle⟩ := ih
      rw [worst_cons]
      constructor
      · rcases max_cases v (worst vs) with h | h
        · rw [h]
          exact List.mem_cons_of_mem _ List.mem_cons_self
        · rw [h]
          rcases List.mem_cons.1 hmem with h | h
          · exact h ▸ List.mem_cons_self
          · exact List.mem_cons_of_mem _ (List.mem_cons_of_mem _ h)
      · rw [rank_max]
        refine List.forall_mem_cons.2 ⟨Nat.le_max_left _ _, fun w hw => ?_⟩
        exact Nat.le_trans (hle w hw) (Nat.le_max_right _ _)
  constructor
  · rintro rfl
    exact hworst
  · rintro ⟨hmem, hle⟩
    -- each of the two is among the verdicts that the other is not less severe than
    have hbelow : ∀ {b c : Verdict}, b ∈ Verdict.allow :: vs → (∀ v ∈ vs, v.rank ≤ c.rank) → b.rank ≤ c.rank := by
      intro b c hb hc
      rcases List.mem_cons.1 hb with rfl | hb
      · exact Nat.zero_le _
      · exact hc b hb
    exact rank_injective (Nat.le_antisymm (hbelow hmem hworst.2) (hbelow hworst.1 hle))

theorem worst_perm (h : vs.Perm ws) : worst vs = worst ws := by
  obtain ⟨hmem, hle⟩ := eq_worst_iff.1 (Eq.refl (worst vs))
  exact eq_worst_iff.2 ⟨(h.cons _).mem_iff.1 hmem, fun v hv => hle v (h.mem_iff.2 hv)⟩

end Verdict

/-! ## What triggers a rule -/

namespace Rule

variable {args : Value} {context : Context} {rule : Rule}

/-- The rule is called for by its checks: there are none, one finds something wrong, or one gives no answer. -/
def IsCalledFor (args : Value) (rule : Rule) : Prop :=
  rule.checks = [] ∨ (∃ check ∈ rule.checks, ∃ message, check.violation args = .ok (some message)) ∨
    rule.HasStuckCheck args

/-- A rule is triggered when its checks call for it, in every context. -/
theorem triggers_iff : rule.Triggers args context ↔ rule.IsCalledFor args := by
  by_cases hne : rule.checks = []
  · exact iff_of_true (Decision.triggers_of_no_checks hne) (.inl hne)
  rcases exists_ok_or_error (rule.checks.mapM (Check.violation args)) with ⟨found, hok⟩ | ⟨e, he⟩
  · -- all checks answer, and their messages are those that are not missing
    have hall := mapM_eq_ok.1 hok
    rw [Triggers, Decision.outcome_of_ok (violations_of_mapM hne hok)]
    constructor
    · intro hsome
      obtain ⟨message, hmessage⟩ := List.exists_mem_of_ne_nil _ hsome
      obtain ⟨answer, hanswer, rfl⟩ := List.mem_filterMap.1 hmessage
      obtain ⟨check, hcheck, hfound⟩ := partner_of_mem_right hall hanswer
      exact .inr (.inl ⟨check, hcheck, message, hfound⟩)
    · rintro (hnil | ⟨check, hcheck, message, hfound⟩ | ⟨check, hcheck, cause, hstuck⟩)
      · exact absurd hnil hne
      · obtain ⟨answer, hanswer, h⟩ := partner_of_mem_left hall hcheck
        obtain rfl : some message = answer := Except.ok.inj (hfound.symm.trans h)
        exact List.ne_nil_of_mem (List.mem_filterMap.2 ⟨_, hanswer, rfl⟩)
      · obtain ⟨answer, -, h⟩ := partner_of_mem_left hall hcheck
        rw [hstuck] at h
        cases h
  · have hstuck := @isStuck_of_mapM args context rule e hne he
    exact iff_of_true (Decision.triggers_of_isStuck hstuck) (.inr (.inr ((isStuck_iff hne).1 hstuck)))

instance (args : Value) (rule : Rule) : Decidable (rule.IsCalledFor args) :=
  decidable_of_iff (rule.Triggers args []) triggers_iff

/-- What a triggered rule comes to: its effect, or a denial if it gives no answer. -/
def severity (args : Value) (context : Context) (rule : Rule) : Verdict :=
  match rule.violations args context with
  | .ok _ => .ofEffect rule.effect
  | .error _ => .deny

theorem severity_eq : rule.severity args context = .ofEffect (Decision.outcome args context rule).2 := by
  unfold severity Decision.outcome
  cases rule.violations args context with
  | ok messages => rfl
  | error e => rfl

theorem severity_eq_deny_iff :
    rule.severity args context = .deny ↔ (Decision.outcome args context rule).2 = .deny := by
  rw [severity_eq]
  cases (Decision.outcome args context rule).2 <;> decide

theorem severity_ne_allow : rule.severity args context ≠ .allow := by
  rw [severity_eq]
  cases (Decision.outcome args context rule).2 <;> exact Verdict.noConfusion

end Rule

namespace Decision

variable {args : Value} {context : Context} {rule : Rule} {rules rules₁ rules₂ : List Rule} {action : String}
  {d d' d₁ d₂ : Decision} {suggestions s₁ s₂ : List Suggestion}

/-! ## The fold -/

theorem eraseDups_concat (xs : List String) (y : String) :
    (xs ++ [y]).eraseDups = if y ∈ xs then xs.eraseDups else xs.eraseDups ++ [y] := by
  rw [List.eraseDups_append]
  split
  · rename_i h
    simp [List.removeAll, h]
  · rename_i h
    simp [List.removeAll, h, List.eraseDups_cons]

theorem extendDistinct_concat (xs ys : List String) (y : String) : extendDistinct xs (ys ++ [y]) =
    if y ∈ extendDistinct xs ys then extendDistinct xs ys else extendDistinct xs ys ++ [y] := by
  simp [extendDistinct]

theorem mem_extendDistinct {control : String} {xs ys : List String} :
    control ∈ extendDistinct xs ys ↔ control ∈ xs ∨ control ∈ ys := by
  induction ys using List.reverseRecOn with
  | nil => simp [extendDistinct]
  | append_singleton ys y ih =>
    rw [extendDistinct_concat, List.mem_append, List.mem_singleton]
    split
    · rename_i hy
      rw [← or_assoc, ← ih]
      exact ⟨.inl, fun h => h.elim id fun heq => heq ▸ hy⟩
    · rw [List.mem_append, ih, List.mem_singleton, or_assoc]

/-- What is put behind a list without repetitions is put there without repetitions. -/
theorem extendDistinct_eraseDups (xs ys : List String) :
    extendDistinct xs.eraseDups ys = (xs ++ ys).eraseDups := by
  induction ys using List.reverseRecOn with
  | nil => rw [List.append_nil, extendDistinct, List.foldl_nil]
  | append_singleton ys y ih =>
    rw [extendDistinct_concat, ih, ← List.append_assoc, eraseDups_concat]
    simp only [List.mem_eraseDups]

/-- Repetitions in what is put behind a list make no difference. -/
theorem extendDistinct_distinct (xs ys : List String) : extendDistinct xs ys.eraseDups = extendDistinct xs ys := by
  induction ys using List.reverseRecOn with
  | nil => rfl
  | append_singleton ys y ih =>
    rw [eraseDups_concat, extendDistinct_concat]
    by_cases h : y ∈ ys
    · rw [if_pos h, ih, if_pos (mem_extendDistinct.2 (.inr h))]
    · rw [if_neg h, extendDistinct_concat, ih]

/-- The suggestions of the triggered rules, rendered. -/
def advice (args : Value) (context : Context) (rules : List Rule) : Except RenderError (List Suggestion) :=
  ((rules.filter (·.IsCalledFor args)).flatMap (·.suggestions)).mapM (Suggestion.rendered context)

/-- The decision with all that some more rules add, once their suggestions have been rendered. -/
def adding (d : Decision) (args : Value) (context : Context) (rules : List Rule) (suggestions : List Suggestion) :
    Decision :=
  let called := rules.filter (·.IsCalledFor args)
  { verdict := d.verdict.max (.worst (called.map (·.severity args context)))
    reasons := d.reasons ++ called.map (Rule.reason args context)
    matched := d.matched ++ called.map (·.id)
    suggestions := d.suggestions ++ suggestions
    controls := extendDistinct d.controls (called.flatMap (·.controls))
    evaluated := d.evaluated ++ rules.map (·.id) }

theorem advice_append : advice args context (rules₁ ++ rules₂) =
    (do return (← advice args context rules₁) ++ (← advice args context rules₂)) := by
  rw [advice, List.filter_append, List.flatMap_append, List.mapM_append]
  rfl

theorem adding_nil : d.adding args context [] [] = d := by
  simp [adding, Verdict.worst, Verdict.max_allow_right, extendDistinct]

theorem adding_append : (d.adding args context rules₁ s₁).adding args context rules₂ s₂ =
    d.adding args context (rules₁ ++ rules₂) (s₁ ++ s₂) := by
  simp only [adding, List.filter_append, List.map_append, List.flatMap_append, List.append_assoc,
    Verdict.worst_append, Verdict.max_assoc, extendDistinct, List.foldl_append]

/-- A rule adds what it is in a list alone. -/
theorem consider_eq : consider args context d rule =
    (advice args context [rule]).map (d.adding args context [rule]) := by
  by_cases h : rule.IsCalledFor args
  · rw [consider_of_triggers (Rule.triggers_iff.2 h)]
    unfold advice adding
    rw [List.filter_cons_of_pos (by simpa using h)]
    simp only [← Rule.severity_eq, List.filter_nil, List.map_cons, List.map_nil, List.flatMap_cons, List.flatMap_nil,
      List.append_nil, Verdict.worst, List.foldl_cons, List.foldl_nil, Verdict.max_allow_left]
    rfl
  · rw [consider_of_not_triggers fun ht => h (Rule.triggers_iff.1 ht)]
    unfold advice adding
    rw [List.filter_cons_of_neg (by simpa using h)]
    simp [Except.map, pure, Except.pure, Verdict.worst, Verdict.max_allow_right, extendDistinct]

/-- The rules add what they add together. -/
theorem foldlM_consider : rules.foldlM (consider args context) d =
    (advice args context rules).map (d.adding args context rules) := by
  induction rules generalizing d with
  | nil => exact congrArg Except.ok adding_nil.symm
  | cons rule rest ih =>
    have hcons : rule :: rest = [rule] ++ rest := rfl
    rw [List.foldlM_cons, consider_eq, hcons, advice_append]
    simp only [ih]
    cases advice args context [rule] with
    | error e => rfl
    | ok s₁ =>
      cases advice args context rest with
      | error e => rfl
      | ok s₂ => exact congrArg Except.ok adding_append

/-! ## The sums -/

/-- The rules for an action. -/
def applicable (rules : List Rule) (action : String) : List Rule := rules.filter (·.target.covers action)

/-- The rules for an action that are triggered by its arguments. -/
def triggered (rules : List Rule) (action : String) (args : Value) : List Rule :=
  (applicable rules action).filter (·.IsCalledFor args)

/-- What is said when no rule is for the action. -/
def remark (action : String) : String := "no applicable policy for '" ++ action ++ "'"

/-- What a decision about an action adds up to. -/
structure SumsUp (d : Decision) (rules : List Rule) (action : String) (args : Value) (context : Context) : Prop where
  /-- Every rule for the action is recorded, in order. -/
  evaluated : d.evaluated = (applicable rules action).map (·.id)
  /-- Of these, every one that is triggered, in order. -/
  matched : d.matched = (triggered rules action args).map (·.id)
  /-- The verdict is that of a triggered rule, unless it is `allow`. -/
  verdict_mem : d.verdict ∈ Verdict.allow :: (triggered rules action args).map (·.severity args context)
  /-- No triggered rule is more severe. -/
  verdict_ge : ∀ rule ∈ triggered rules action args, (rule.severity args context).rank ≤ d.verdict.rank
  /-- Every triggered rule has its reason, in order; if there is no rule for the action, that is the only one. -/
  reasons : d.reasons = if (applicable rules action).isEmpty then [remark action]
    else (triggered rules action args).map (Rule.reason args context)
  /-- The suggestions of the triggered rules, in order, are rendered. -/
  suggestions : ((triggered rules action args).flatMap (·.suggestions)).mapM (Suggestion.rendered context) =
    .ok d.suggestions
  /-- The controls of the triggered rules stand where they appear first, without repetitions. -/
  controls : d.controls = ((triggered rules action args).flatMap (·.controls)).eraseDups

theorem triggered_append :
    triggered (rules₁ ++ rules₂) action args = triggered rules₁ action args ++ triggered rules₂ action args := by
  simp only [triggered, applicable, List.filter_append]

theorem applicable_append :
    applicable (rules₁ ++ rules₂) action = applicable rules₁ action ++ applicable rules₂ action :=
  List.filter_append ..

theorem mem_triggered : rule ∈ triggered rules action args ↔
    rule ∈ rules ∧ rule.target.covers action = true ∧ rule.IsCalledFor args := by
  simp only [triggered, applicable, List.mem_filter, decide_eq_true_eq, and_assoc]

/-- The remark changes the reasons, and all else is as it was folded. -/
theorem ofRules_eq_adding : ofRules rules action args context =
    (advice args context (applicable rules action)).map fun suggestions =>
      { adding {} args context (applicable rules action) suggestions with
        reasons := if (applicable rules action).isEmpty then [remark action]
          else (triggered rules action args).map (Rule.reason args context) } := by
  rw [ofRules, foldlM_consider, ← applicable]
  cases advice args context (applicable rules action) with
  | error e => rfl
  | ok suggestions =>
    unfold triggered
    cases applicable rules action with
    | nil => rfl
    | cons rule rest => rfl

/-- There is a decision when all suggestions of the triggered rules can be rendered. -/
theorem exists_ofRules_iff : (∃ d, ofRules rules action args context = .ok d) ↔
    ∀ rule ∈ triggered rules action args, rule.Advises context := by
  have hadvice : (∃ suggestions, advice args context (applicable rules action) = .ok suggestions) ↔
      ∀ s ∈ (triggered rules action args).flatMap (·.suggestions), ∃ t, s.rendered context = .ok t := exists_mapM_ok
  simp only [List.mem_flatMap, forall_exists_index, and_imp] at hadvice
  rw [ofRules_eq_adding]
  simp only [map_eq_ok]
  constructor
  · rintro ⟨_, suggestions, hsuggestions, -⟩ rule hr s hs
    exact hadvice.1 ⟨suggestions, hsuggestions⟩ s rule hr hs
  · intro h
    obtain ⟨suggestions, hsuggestions⟩ := hadvice.2 fun s rule hr hs => h rule hr s hs
    exact ⟨_, suggestions, hsuggestions, rfl⟩

/-- There is a decision unless a rule for the action is triggered and cannot be rendered. -/
theorem exists_ofRules : (∃ d, ofRules rules action args context = .ok d) ↔
    ∀ rule ∈ rules, rule.target.covers action = true → rule.Triggers args context → rule.Advises context := by
  simp only [exists_ofRules_iff, mem_triggered, Rule.triggers_iff, and_imp]

/-- A decision adds up. -/
theorem sumsUp_of_ofRules (h : ofRules rules action args context = .ok d) : d.SumsUp rules action args context := by
  rw [ofRules_eq_adding] at h
  obtain ⟨suggestions, hsuggestions, rfl⟩ := map_eq_ok.1 h
  obtain ⟨hmem, hle⟩ := Verdict.eq_worst_iff.1 (Verdict.max_allow_left
    (.worst ((triggered rules action args).map (·.severity args context))))
  exact {
    evaluated := rfl
    matched := rfl
    verdict_mem := hmem
    verdict_ge := fun rule hr => hle _ (List.mem_map_of_mem hr)
    reasons := rfl
    suggestions := hsuggestions
    controls := extendDistinct_eraseDups [] _ }

namespace SumsUp

theorem verdict_eq_worst (h : d.SumsUp rules action args context) :
    d.verdict = .worst ((triggered rules action args).map (·.severity args context)) := by
  refine Verdict.eq_worst_iff.2 ⟨h.verdict_mem, fun v hv => ?_⟩
  obtain ⟨rule, hr, rfl⟩ := List.mem_map.1 hv
  exact h.verdict_ge rule hr

/-- A decision is a denial when a triggered rule comes to one. -/
theorem verdict_eq_deny_iff (h : d.SumsUp rules action args context) :
    d.verdict = .deny ↔ ∃ rule ∈ triggered rules action args, rule.severity args context = .deny := by
  constructor
  · intro hdeny
    have hmem := h.verdict_mem
    rw [hdeny] at hmem
    exact List.mem_map.1 (List.mem_of_ne_of_mem Verdict.noConfusion hmem)
  · rintro ⟨rule, hr, hdeny⟩
    have hle := h.verdict_ge rule hr
    rw [hdeny] at hle
    exact Verdict.rank_injective (Nat.le_antisymm (Verdict.rank_le_deny _) hle)

/-- With a triggered rule there is no remark. -/
theorem reasons_of_mem (h : d.SumsUp rules action args context) (hr : rule ∈ triggered rules action args) :
    d.reasons = (triggered rules action args).map (Rule.reason args context) := by
  have hsome : ¬ (applicable rules action).isEmpty = true := by
    rw [List.isEmpty_iff]
    exact List.ne_nil_of_mem (List.mem_filter.1 hr).1
  rw [h.reasons, if_neg hsome]

/-- What a decision adds up to determines it. -/
theorem unique (h : d.SumsUp rules action args context) (h' : d'.SumsUp rules action args context) : d = d' := by
  have hsuggestions : d.suggestions = d'.suggestions := Except.ok.inj (h.suggestions.symm.trans h'.suggestions)
  cases d
  cases d'
  simp only [mk.injEq]
  exact ⟨h.verdict_eq_worst.trans h'.verdict_eq_worst.symm, h.reasons.trans h'.reasons.symm,
    h.matched.trans h'.matched.symm, hsuggestions, h.controls.trans h'.controls.symm, h.evaluated.trans h'.evaluated.symm⟩

/-- A decision allows the action without a word against it exactly when no rule is triggered. -/
theorem verdict_eq_allow_iff (h : d.SumsUp rules action args context) : d.verdict = .allow ↔ d.matched = [] := by
  rw [h.matched, List.map_eq_nil_iff]
  constructor
  · intro hallow
    by_contra hsome
    obtain ⟨rule, hr⟩ := List.exists_mem_of_ne_nil _ hsome
    have hle := h.verdict_ge rule hr
    rw [hallow] at hle
    exact Rule.severity_ne_allow (Verdict.rank_injective (Nat.le_zero.1 hle))
  · intro hnone
    have hmem := h.verdict_mem
    rw [hnone] at hmem
    exact List.mem_singleton.1 hmem

/-- There is nothing to say exactly when there are rules for the action and none is triggered. -/
theorem reasons_eq_nil_iff (h : d.SumsUp rules action args context) :
    d.reasons = [] ↔ d.evaluated ≠ [] ∧ d.matched = [] := by
  rw [h.reasons, h.evaluated, h.matched]
  split
  · rename_i hnone
    rw [List.isEmpty_iff.1 hnone]
    simp
  · rename_i hsome
    rw [List.isEmpty_iff] at hsome
    simp [hsome]

end SumsUp

/-- A decision is a denial when one of the rules for the action denies. -/
theorem verdict_of_ofRules (h : ofRules rules action args context = .ok d) :
    d.verdict = .deny ↔ ∃ rule ∈ rules, rule.target.covers action = true ∧ rule.Denies args context := by
  simp only [(sumsUp_of_ofRules h).verdict_eq_deny_iff, mem_triggered, Rule.severity_eq_deny_iff, Rule.Denies,
    Rule.triggers_iff, and_assoc]

/-- A denial has the reasons of the triggered rules for the action, and no other. -/
theorem reasons_of_deny (h : ofRules rules action args context = .ok d) (hd : d.verdict = .deny) :
    d.reasons =
      ((rules.filter (·.target.covers action)).filter (·.Triggers args context)).map (Rule.reason args context) := by
  have hsums := sumsUp_of_ofRules h
  obtain ⟨rule, hr, -⟩ := hsums.verdict_eq_deny_iff.1 hd
  simp only [hsums.reasons_of_mem hr, triggered, applicable, Rule.triggers_iff]

/-! ## Two lists of rules -/

/-- Two decisions put together. The remark that no rule is for the action is left out if there is one after all. -/
def join (d e : Decision) : Decision where
  verdict := d.verdict.max e.verdict
  reasons :=
    if d.evaluated.isEmpty then e.reasons
    else if e.evaluated.isEmpty then d.reasons
    else d.reasons ++ e.reasons
  matched := d.matched ++ e.matched
  suggestions := d.suggestions ++ e.suggestions
  controls := extendDistinct d.controls e.controls
  evaluated := d.evaluated ++ e.evaluated

theorem SumsUp.join (h₁ : d₁.SumsUp rules₁ action args context) (h₂ : d₂.SumsUp rules₂ action args context) :
    (d₁.join d₂).SumsUp (rules₁ ++ rules₂) action args context where
  evaluated := by
    rw [applicable_append, List.map_append, ← h₁.evaluated, ← h₂.evaluated]
    rfl
  matched := by
    rw [triggered_append, List.map_append, ← h₁.matched, ← h₂.matched]
    rfl
  verdict_mem := by
    rw [triggered_append, List.map_append]
    -- the verdict is one of the two, and each of them is among the verdicts of its rules
    have hmem₁ := h₁.verdict_mem
    have hmem₂ := h₂.verdict_mem
    rw [List.mem_cons] at hmem₁ hmem₂ ⊢
    rw [List.mem_append]
    show d₁.verdict.max d₂.verdict = _ ∨ d₁.verdict.max d₂.verdict ∈ _ ∨ d₁.verdict.max d₂.verdict ∈ _
    rcases Verdict.max_cases d₁.verdict d₂.verdict with h | h
    · rw [h]
      exact hmem₁.imp_right .inl
    · rw [h]
      exact hmem₂.imp_right .inr
  verdict_ge := by
    rw [triggered_append]
    intro rule hr
    rw [Decision.join, Verdict.rank_max]
    rcases List.mem_append.1 hr with hr | hr
    · exact Nat.le_trans (h₁.verdict_ge rule hr) (Nat.le_max_left _ _)
    · exact Nat.le_trans (h₂.verdict_ge rule hr) (Nat.le_max_right _ _)
  reasons := by
    rw [Decision.join, h₁.evaluated, h₂.evaluated, h₁.reasons, h₂.reasons, triggered_append, applicable_append,
      List.map_append]
    unfold triggered
    cases applicable rules₁ action with
    | nil => rfl
    | cons rule rest =>
      cases applicable rules₂ action with
      | nil => simp
      | cons rule rest => rfl
  suggestions := by
    rw [triggered_append, List.flatMap_append, List.mapM_append, h₁.suggestions, h₂.suggestions]
    rfl
  controls := by
    rw [triggered_append, List.flatMap_append, ← extendDistinct_eraseDups, ← h₁.controls, ← extendDistinct_distinct,
      ← h₂.controls]
    rfl

end Decision

/-! ## Rule sets -/

namespace RuleSet

variable {set : RuleSet} {action : String} {args : Value} {context : Context}

/-- When the suggestions of the triggered rules can be rendered there is a decision, and it adds up. It allows the
action without a word against it exactly when no rule is triggered, and has nothing to say exactly when there are
rules and none is triggered. However the rules are divided into two lists, it is the decisions of the two put
together. -/
theorem evaluate_sumsUp
    (h : ∀ rule ∈ Decision.triggered set.rules (set.resolveAction action) args, rule.Advises context) :
    ∃ d, set.evaluate action args context = .ok d ∧ d.SumsUp set.rules (set.resolveAction action) args context ∧
      (d.verdict = .allow ↔ d.matched = []) ∧ (d.reasons = [] ↔ d.evaluated ≠ [] ∧ d.matched = []) ∧
      ∀ rules₁ rules₂, set.rules = rules₁ ++ rules₂ → ∃ d₁ d₂,
        { set with rules := rules₁ }.evaluate action args context = .ok d₁ ∧
        { set with rules := rules₂ }.evaluate action args context = .ok d₂ ∧ d = d₁.join d₂ := by
  obtain ⟨d, hd⟩ := Decision.exists_ofRules_iff.2 h
  have hsums := Decision.sumsUp_of_ofRules hd
  refine ⟨d, hd, hsums, hsums.verdict_eq_allow_iff, hsums.reasons_eq_nil_iff, fun rules₁ rules₂ hrules => ?_⟩
  -- what is triggered in one of the lists is triggered in both together
  rw [hrules, Decision.triggered_append] at h
  obtain ⟨d₁, hd₁⟩ := Decision.exists_ofRules_iff.2 fun rule hr => h rule (List.mem_append_left _ hr)
  obtain ⟨d₂, hd₂⟩ := Decision.exists_ofRules_iff.2 fun rule hr => h rule (List.mem_append_right _ hr)
  have hjoin := (Decision.sumsUp_of_ofRules hd₁).join (Decision.sumsUp_of_ofRules hd₂)
  rw [← hrules] at hjoin
  exact ⟨d₁, d₂, hd₁, hd₂, hsums.unique hjoin⟩

/-! ### Rules of all kinds -/

/-- A rule without checks, one with two faults to find, one that finds none, one with a fault to find and a pattern
that is refused, and one for another action. -/
def varied : RuleSet where
  rules :=
    [{ id := "note", description := "Ask \x7b\x7bwho\x7d\x7d", target := .space "azure", effect := .warn,
       suggestions := [{ text := .str "Write to \x7b\x7bwho\x7d\x7d" }], controls := ["AC-1", "CM-2"] },
     { id := "parts", description := "", target := .action "azure.create", effect := .warn,
       checks := [⟨"owner", .present, none, []⟩, ⟨"name", .present, none, []⟩, ⟨"region", .present, none, []⟩],
       controls := ["CM-2"] },
     { id := "calm", description := "", target := .action "azure.create", effect := .deny,
       checks := [⟨"name", .present, none, []⟩], controls := ["SC-7"] },
     { id := "broken", description := "", target := .action "azure.create", effect := .warn,
       checks := [⟨"owner", .present, none, []⟩, ⟨"name", .matching (some "(") false, none, []⟩],
       controls := ["IA-5", "AC-1"] },
     { id := "other", description := "", target := .action "azure.delete", effect := .deny }]
  aliases := [("create", "azure.create")]

/-- Arguments with nothing but a name. -/
def nameOnly : Value := .record [("name", .str "rg")]

/-- Someone to ask. -/
def asAnn : Context := [(.str "who", .str "Ann")]

/-- The refused pattern makes the decision a denial, and all that is found stands in it in order. -/
theorem varied_denies :
    ∃ d, varied.evaluate "create" nameOnly asAnn = .ok d ∧ d.verdict = .deny ∧
      d.evaluated = ["note", "parts", "calm", "broken"] ∧ d.matched = ["note", "parts", "broken"] ∧
      d.reasons = ["note: Ask Ann", "parts: Field 'owner' is required; Field 'region' is required",
        "broken: rule could not be evaluated"] ∧ d.controls = ["AC-1", "CM-2", "IA-5"] := by
  have hdecides : ((varied.evaluate "create" nameOnly asAnn).toOption.map fun d =>
      (d.verdict, d.evaluated, d.matched, d.reasons, d.controls)) =
      some (.deny, ["note", "parts", "calm", "broken"], ["note", "parts", "broken"],
        ["note: Ask Ann", "parts: Field 'owner' is required; Field 'region' is required",
          "broken: rule could not be evaluated"], ["AC-1", "CM-2", "IA-5"]) := by
    decide +kernel
  simpa only [Option.map_eq_some_iff, toOption_eq_some, Prod.mk.injEq] using hdecides

/-- Every rule for the action is recorded, and those that are triggered make the denial. -/
theorem varied_sumsUp :
    (∀ rule ∈ Decision.triggered varied.rules (varied.resolveAction "create") nameOnly, rule.Advises asAnn) ∧
    ∃ d, varied.evaluate "create" nameOnly asAnn = .ok d ∧
      d.SumsUp varied.rules (varied.resolveAction "create") nameOnly asAnn ∧ d.verdict = .deny ∧
      d.evaluated = ["note", "parts", "calm", "broken"] ∧ d.matched = ["note", "parts", "broken"] ∧
      d.reasons = ["note: Ask Ann", "parts: Field 'owner' is required; Field 'region' is required",
        "broken: rule could not be evaluated"] ∧ d.controls = ["AC-1", "CM-2", "IA-5"] := by
  obtain ⟨d, hd, hresults⟩ := varied_denies
  have h := Decision.exists_ofRules_iff.1 ⟨d, hd⟩
  obtain ⟨d', hd', hsums, -⟩ := evaluate_sumsUp h
  obtain rfl : d = d' := Except.ok.inj (hd.symm.trans hd')
  exact ⟨h, d, hd, hsums, hresults⟩

end RuleSet
end PolicyGate
