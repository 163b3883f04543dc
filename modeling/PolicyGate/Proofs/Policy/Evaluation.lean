import PolicyGate.Proofs.Policy.Compilation
import PolicyGate.Proofs.Policy.Folding
import PolicyGate.Proofs.Policy.Rendering

/-!
# When there is a decision

Whatever goes wrong in a check denies the action; only the suggestions of a triggered rule can keep an
evaluation from its decision. That happens in two ways (`RuleSet.evaluate_fails_iff`): a section has a
suggestion that no field is named for and that is no text, or a placeholder stands for a value of the context
that is too long to be written. So a document without such a suggestion has a decision about every action, for
all arguments and for every context of values that can be written.
-/

namespace PolicyGate

open Attempt

/-- Some section for the action has a suggestion that its shape does not know and that is no text. -/
def Document.HasStraySuggestion (raw : Value) (action : String) : Prop :=
  ∃ provider kind field w, provider ++ "." ++ kind = action ∧ field ∈ Section.singles ∧
    Document.IsStray raw provider kind field w ∧ ∀ t, w ≠ .str t

namespace RuleSet

variable {raw args : Value} {profile action : String} {set : RuleSet} {context : Context}

/-- The suggestions of a rule set are texts, but for the stray ones of its document. -/
theorem isText_or_isStray (h : ofDocument raw profile = .ok set) {rule : Rule} (hr : rule ∈ set.rules)
    (hc : rule.target.covers action = true) :
    (∀ suggestion ∈ rule.suggestions, suggestion.IsText) ∨ Document.HasStraySuggestion raw action := by
  obtain ⟨v, c, hv, hcompiled, hrules⟩ := ofDocument_eq_ok h
  rw [hrules] at hr
  rcases Document.rule_cases hcompiled hr with ⟨s, hs, rs, hrs, hr⟩ | htexts
  · rcases Section.suggests_of_mem hrs hr with htexts | ⟨field, hf, w, hw, htarget, -, suggestion, hone, rfl⟩
    · exact .inl htexts
    · by_cases ht : suggestion.IsText
      · exact .inl (by simpa [hone] using ht)
      · right
        have hother : ¬ (s.provider = "azure" ∧ s.kind = "create_resource_group") := by
          rintro ⟨hp, hk⟩
          exact ht ((Document.texts_of_resourceGroup hv hs hp hk).1 field hf hw)
        have hstray := (Document.truthy?_iff_isStray hv hs hother (List.mem_append_left _ hf)).1 hw
        refine ⟨s.provider, s.kind, field, suggestion.text, ?_, hf, hstray, fun t h => ht ⟨t, h⟩⟩
        rw [htarget] at hc
        exact eq_of_beq hc
  · exact .inl htexts

/-- A stray suggestion is that of a rule for every action of its section. -/
theorem exists_rule_of_isStray (h : ofDocument raw profile = .ok set)
    (hs : Document.HasStraySuggestion raw action) :
    ∃ rule ∈ set.rules, rule.target.covers action = true ∧ rule.checks = [] ∧
      ∃ suggestion ∈ rule.suggestions, ¬ suggestion.IsText := by
  obtain ⟨v, c, hv, hcompiled, hrules⟩ := ofDocument_eq_ok h
  obtain ⟨provider, kind, field, w, rfl, hf, hstray, hw⟩ := hs
  obtain ⟨s, hs, rfl, rfl⟩ := Document.exists_section_of_isStray hv hstray
  have hsome := (Document.truthy?_iff_isStray hv hs hstray.2.1 hstray.2.2.1).2 hstray
  obtain ⟨rs, hrs, hall⟩ := Document.exists_section_rules hcompiled hs
  obtain ⟨rule, hr, htarget, hchecks, suggestion, hone, rfl⟩ := Section.exists_suggests hrs hf hsome
  refine ⟨rule, hrules ▸ hall rule hr, ?_, hchecks, suggestion, by simp [hone], fun ⟨t, ht⟩ => hw t ht⟩
  rw [htarget]
  exact beq_self_eq_true _

/-- There is no decision about an action exactly when its section has a stray suggestion that is no text, or
a triggered rule for it suggests something with a placeholder for a value that is too long to be written. -/
theorem evaluate_fails_iff (h : ofDocument raw profile = .ok set) :
    (∃ e, set.evaluate action args context = .error e) ↔
      Document.HasStraySuggestion raw (set.resolveAction action) ∨
      ∃ rule ∈ set.rules, rule.target.covers (set.resolveAction action) = true ∧
        rule.Triggers args context ∧ ∃ suggestion ∈ rule.suggestions, ∃ key ∈ suggestion.keys,
          ∃ v, Value.field? context key = some v ∧ v.Holds Value.IsLong := by
  have hdecides : (∃ e, set.evaluate action args context = .error e) ↔
      ¬ ∃ d, set.evaluate action args context = .ok d := by
    cases set.evaluate action args context <;> simp
  rw [hdecides, evaluate, Decision.exists_ofRules]
  constructor
  · -- some rule is triggered and has a suggestion that cannot be rendered: it is no text, or a key is at fault
    intro hfail
    push Not at hfail
    obtain ⟨rule, hr, hc, ht, hadvises⟩ := hfail
    obtain ⟨suggestion, hs, hfails⟩ : ∃ suggestion ∈ rule.suggestions,
        ¬ ∃ t, suggestion.rendered context = .ok t := by
      by_contra hall
      exact hadvises fun suggestion hs => by_contra fun h => hall ⟨suggestion, hs, h⟩
    rw [Suggestion.exists_rendered, not_and_or] at hfails
    rcases hfails with htext | hkeys
    · refine .inl ((isText_or_isStray h hr hc).resolve_left fun htexts => htext (htexts suggestion hs))
    · push Not at hkeys
      obtain ⟨key, hkey, hwrites⟩ := hkeys
      exact .inr ⟨rule, hr, hc, ht, suggestion, hs, key, hkey, Template.not_writes_iff.1 hwrites⟩
  · rintro (hstray | ⟨rule, hr, hc, ht, suggestion, hs, key, hkey, hv⟩) hall
    · -- the rule of a stray suggestion has no checks, so it is triggered whatever the arguments are
      obtain ⟨rule, hr, hc, hchecks, suggestion, hs, htext⟩ := exists_rule_of_isStray h hstray
      have hadvises := hall rule hr hc (Decision.triggers_of_no_checks hchecks)
      exact htext (Suggestion.exists_rendered.1 (hadvises suggestion hs)).1
    · have hwrites := (Suggestion.exists_rendered.1 (hall rule hr hc ht suggestion hs)).2 key hkey
      exact Template.not_writes_iff.2 hv hwrites

/-! ### A number for a suggestion -/

/-- The section for storage accounts has no field for the suggestion, so the number is kept as it is. -/
def numberSuggested : Value := .record
  [("azure", .record [("create_storage_account", .record [("suggest_name", .int 7)])])]

theorem numberSuggested_fails : ∃ set, ofDocument numberSuggested "" = .ok set ∧
    ∃ e, set.evaluate "azure.create_storage_account" .null [] = .error e := by
  have hfails : ((ofDocument numberSuggested "").toOption.map fun set =>
      (set.evaluate "azure.create_storage_account" .null []).toOption.isNone) = some true := by
    decide +kernel
  obtain ⟨set, hset, hnone⟩ := Option.map_eq_some_iff.1 hfails
  refine ⟨set, toOption_eq_some.1 hset, ?_⟩
  rcases exists_ok_or_error (set.evaluate "azure.create_storage_account" .null []) with ⟨d, hd⟩ | he
  · rw [hd] at hnone
    cases hnone
  · exact he

/-- The evaluation fails, and it does so because of the stray suggestion. -/
theorem numberSuggested_fails_iff :
    ∃ set, ofDocument numberSuggested "" = .ok set ∧
      (∃ e, set.evaluate "azure.create_storage_account" .null [] = .error e) ∧
      Document.HasStraySuggestion numberSuggested (set.resolveAction "azure.create_storage_account") := by
  obtain ⟨set, hset, he⟩ := numberSuggested_fails
  refine ⟨set, hset, he, ?_⟩
  rcases (evaluate_fails_iff hset).1 he with hstray | ⟨_, _, _, _, _, _, _, _, v, hv, _⟩
  · exact hstray
  · cases hv

/-- So not every rule set of a document decides about every action, not even when there are no arguments and
no context. -/
theorem not_always_evaluates :
    ¬ ∀ (raw : Value) (profile action : String) (set : RuleSet),
      ofDocument raw profile = .ok set → ∃ d, set.evaluate action .null [] = .ok d := by
  intro h
  obtain ⟨set, hset, e, he⟩ := numberSuggested_fails
  obtain ⟨d, hd⟩ := h _ _ "azure.create_storage_account" _ hset
  rw [he] at hd
  cases hd

end RuleSet
end PolicyGate
