import PolicyGate.Proofs.Document.Sections

/-!
# Where rules come from

A rule of a compiled document comes from a section, from a policy or from the advisory section
(`Document.mem_rules_iff`). All suggestions have texts that are written down as such, except those that a
section makes of a single value (`Section.suggests_of_mem`): they have that value for a text.
-/

namespace PolicyGate

open Attempt

/-- The text of the suggestion is one. -/
def Suggestion.IsText (suggestion : Suggestion) : Prop := ∃ template, suggestion.text = .str template

/-! ## Sections -/

/-- The intents of a section stand in the table. -/
theorem Intent.exists_row {s : Section} {intent : Intent} (h : intent ∈ ofSection s) : ∃ row ∈ table, intent ∈ row.2 := by
  unfold ofSection at h
  cases hrow : table.find? (·.1 == (s.provider, s.kind)) with
  | none =>
    rw [hrow] at h
    cases h
  | some row =>
    rw [hrow] at h
    exact ⟨row, List.mem_of_find?_eq_some hrow, h⟩

namespace Section

variable {s : Section} {rs : List Rule} {rule : Rule} {e : CompileError} {field : String} {v : Value}

theorem single_eq_ok {suffix lead title key : String} :
    s.single field suffix lead title key = .ok rs ↔
      match s.truthy? field with
      | none => rs = []
      | some v => ∃ text, adviceText v = .ok text ∧ rs = [s.advice suffix (lead ++ text)
          { text := v, title := some title, fix := some (.record [(key, v)]) }] := by
  unfold single
  cases s.truthy? field with
  | none => simp [eq_comm]
  | some v => simp only [bind_eq_ok, pure_eq_ok, eq_comm (b := rs)]

theorem rules_eq_ok : s.rules = .ok rs ↔ ∃ demands name region tags,
    (Intent.ofSection s).mapM s.demand = .ok demands ∧
    s.single "suggest_name" "suggestName" "Consider a name like " "Suggested name" "name" = .ok name ∧
    s.single "suggest_region" "suggestRegion" "Consider region " "Suggested region" "location" =
      .ok region ∧
    s.tagAdvice = .ok tags ∧
    rs = demands.filterMap (fun rule => rule) ++ name ++ region ++ tags := by
  simp only [rules, bind_eq_ok, pure_eq_ok, eq_comm (b := rs)]
  constructor
  · rintro ⟨demands, hd, name, hn, region, hr, tags, ht, h⟩
    exact ⟨demands, name, region, tags, hd, hn, hr, ht, h⟩
  · rintro ⟨demands, name, region, tags, hd, hn, hr, ht, h⟩
    exact ⟨demands, hd, name, hn, region, hr, tags, ht, h⟩

theorem suggestions_of_demand {intent : Intent} (h : s.demand intent = .ok (some rule)) :
    rule.suggestions = [] := by
  unfold demand at h
  split at h
  · cases h
  · split at h <;> cases h
    rfl

theorem isText_of_tagAdvice (h : s.tagAdvice = .ok rs) (hr : rule ∈ rs) :
    ∀ suggestion ∈ rule.suggestions, suggestion.IsText := by
  unfold tagAdvice at h
  split at h
  · obtain rfl := Except.ok.inj h
    cases hr
  · obtain ⟨parts, -, h⟩ := bind_eq_ok.1 h
    obtain rfl := pure_eq_ok.1 h
    obtain rfl := List.mem_singleton.1 hr
    intro suggestion hs
    obtain rfl := List.mem_singleton.1 hs
    exact ⟨_, rfl⟩
  · cases h

/-- The rule that suggests a value, to every action of the section. -/
def Suggests (s : Section) (v : Value) (rule : Rule) : Prop :=
  rule.target = .action s.action ∧ rule.checks = [] ∧ ∃ suggestion, rule.suggestions = [suggestion] ∧
    suggestion.text = v

theorem suggests_of_single {suffix lead title key : String}
    (h : s.single field suffix lead title key = .ok rs) (hr : rule ∈ rs) :
    ∃ v, s.truthy? field = some v ∧ s.Suggests v rule := by
  rw [single_eq_ok] at h
  cases hv : s.truthy? field with
  | none =>
    rw [hv] at h
    rw [h] at hr
    cases hr
  | some v =>
    rw [hv] at h
    obtain ⟨text, -, rfl⟩ := h
    obtain rfl := List.mem_singleton.1 hr
    exact ⟨v, rfl, rfl, rfl, _, rfl, rfl⟩

theorem exists_suggests_of_single {suffix lead title key : String}
    (h : s.single field suffix lead title key = .ok rs) (hv : s.truthy? field = some v) :
    ∃ rule ∈ rs, s.Suggests v rule := by
  rw [single_eq_ok, hv] at h
  obtain ⟨text, -, rfl⟩ := h
  exact ⟨_, List.mem_singleton_self _, rfl, rfl, _, rfl, rfl⟩

/-- What a section suggests is a text of its own, or a single value as it stands. -/
theorem suggests_of_mem (h : s.rules = .ok rs) (hr : rule ∈ rs) :
    (∀ suggestion ∈ rule.suggestions, suggestion.IsText) ∨
      ∃ field ∈ singles, ∃ v, s.truthy? field = some v ∧ s.Suggests v rule := by
  obtain ⟨demands, name, region, tags, hdemands, hname, hregion, htags, rfl⟩ := rules_eq_ok.1 h
  simp only [List.mem_append] at hr
  rcases hr with ((hr | hr) | hr) | hr
  · -- a demand has nothing to suggest
    obtain ⟨demand, hd, heq⟩ := List.mem_filterMap.1 hr
    obtain ⟨intent, -, hintent⟩ := exists_of_mem_mapM hdemands hd
    rw [heq] at hintent
    rw [suggestions_of_demand hintent]
    exact .inl (by simp)
  · exact .inr ⟨_, by simp [singles], suggests_of_single hname hr⟩
  · exact .inr ⟨_, by simp [singles], suggests_of_single hregion hr⟩
  · exact .inl (isText_of_tagAdvice htags hr)

/-- Every single value that counts as something is suggested. -/
theorem exists_suggests (h : s.rules = .ok rs) (hf : field ∈ singles)
    (hv : s.truthy? field = some v) : ∃ rule ∈ rs, s.Suggests v rule := by
  obtain ⟨demands, name, region, tags, -, hname, hregion, -, rfl⟩ := rules_eq_ok.1 h
  simp only [singles, List.mem_cons, List.not_mem_nil, or_false] at hf
  rcases hf with rfl | rfl
  · obtain ⟨rule, hr, hs⟩ := exists_suggests_of_single hname hv
    exact ⟨rule, List.mem_append_left _ (List.mem_append_left _ (List.mem_append_right _ hr)), hs⟩
  · obtain ⟨rule, hr, hs⟩ := exists_suggests_of_single hregion hv
    exact ⟨rule, List.mem_append_left _ (List.mem_append_right _ hr), hs⟩

end Section

/-! ## Policies -/

theorem PolicySpec.isText_of_mem {spec : PolicySpec} {target : Target} {effect : Effect}
    {checks : List Check} {suggestion : Suggestion}
    (h : suggestion ∈ (spec.rule target effect checks).suggestions) : suggestion.IsText := by
  obtain ⟨written, -, rfl⟩ := Option.map_eq_some_iff.1 (Option.mem_toList.1 h)
  exact ⟨_, rfl⟩

/-- A policy becomes a rule with its target and all of its checks, in order. -/
theorem PolicySpec.toRule_eq_ok {spec : PolicySpec} {rule : Rule} :
    spec.toRule = .ok rule ↔ ∃ target checks, spec.target.toTarget = .ok target ∧
      List.Forall₂ (fun entry check => CheckSpec.toCheck entry = .ok check) spec.checks checks ∧
      spec.rule target spec.effect checks = rule := by
  simp only [toRule, mapError_eq_ok, bind_eq_ok, pure_eq_ok, mapM_eq_ok]
  constructor
  · rintro ⟨target, htarget, checks, hchecks, rfl⟩
    exact ⟨target, checks, htarget, hchecks, rfl⟩
  · rintro ⟨target, checks, htarget, hchecks, rfl⟩
    exact ⟨target, htarget, checks, hchecks, rfl⟩

/-! ## The advisory section -/

namespace Advisory

/-- The rule warns, it looks at something, and what it suggests is written as a text. -/
structure IsAdvice (rule : Rule) : Prop where
  warns : rule.effect = .warn
  looks : rule.checks ≠ []
  speaks : ∀ suggestion ∈ rule.suggestions, suggestion.IsText

variable {c : Compiled} {rule : Rule}

theorem isAdvice_of_entryRule {owner code : String} {target : Target} {entry : AdvisoryRule}
    (h : entryRule owner target code entry = .ok c) (hr : rule ∈ c.rules) : IsAdvice rule := by
  obtain ⟨⟨checks, warnings⟩, -, h⟩ := bind_eq_ok.1 h
  obtain rfl := pure_eq_ok.1 h
  cases checks with
  | nil => cases hr
  | cons check rest =>
    obtain rfl := List.mem_singleton.1 hr
    refine ⟨rfl, List.cons_ne_nil _ _, fun suggestion hs => ?_⟩
    obtain ⟨text, -, rfl⟩ := List.mem_map.1 hs
    exact ⟨text, rfl⟩

theorem isAdvice_of_policyRule {spec : PolicySpec} (h : policyRule spec = .ok c)
    (hr : rule ∈ c.rules) : IsAdvice rule := by
  unfold policyRule at h
  split at h
  · obtain rfl := Except.ok.inj h
    cases hr
  · obtain ⟨⟨checks, warnings⟩, -, h⟩ := bind_eq_ok.1 h
    obtain rfl := pure_eq_ok.1 h
    cases checks with
    | nil => cases hr
    | cons check rest =>
      obtain rfl := List.mem_singleton.1 hr
      exact ⟨rfl, List.cons_ne_nil _ _, fun suggestion => PolicySpec.isText_of_mem⟩

theorem mem_rules_joined {parts : List Compiled} :
    rule ∈ (joined parts).rules ↔ ∃ part ∈ parts, rule ∈ part.rules :=
  List.mem_flatMap

theorem isAdvice_of_domainRules {profile name : String} {domain : AdvisoryDomain}
    (h : domainRules profile name domain = .ok c) (hr : rule ∈ c.rules) : IsAdvice rule := by
  unfold domainRules at h
  dsimp only at h
  split at h
  · obtain rfl := Except.ok.inj h
    cases hr
  · obtain ⟨parts, hparts, h⟩ := bind_eq_ok.1 h
    obtain rfl := pure_eq_ok.1 h
    obtain ⟨part, hpart, hr⟩ := mem_rules_joined.1 hr
    obtain ⟨⟨code, entry⟩, -, hentry⟩ := exists_of_mem_mapM hparts hpart
    exact isAdvice_of_entryRule hentry hr

/-- Everything in the advisory section is advice. -/
theorem isAdvice_of_rules {advisory : Advisory} {profile : String}
    (h : advisory.rules profile = .ok c) (hr : rule ∈ c.rules) : IsAdvice rule := by
  obtain ⟨ofDomains, hdomains, h⟩ := bind_eq_ok.1 h
  obtain ⟨ofPolicies, hpolicies, h⟩ := bind_eq_ok.1 h
  obtain rfl := pure_eq_ok.1 h
  obtain ⟨part, hpart, hr⟩ := mem_rules_joined.1 hr
  rcases List.mem_append.1 hpart with hpart | hpart
  · rcases List.mem_cons.1 hpart with rfl | hpart
    · cases hr
    · obtain ⟨⟨name, domain⟩, -, hdomain⟩ := exists_of_mem_mapM hdomains hpart
      exact isAdvice_of_domainRules hdomain hr
  · obtain ⟨spec, -, hspec⟩ := exists_of_mem_mapM hpolicies hpart
    exact isAdvice_of_policyRule hspec hr

end Advisory

/-! ## Documents -/

namespace Document

variable {doc : Document} {profile : String} {c : Compiled} {rule : Rule}

/-- A document compiles part by part. -/
theorem compile_eq_ok : doc.compile profile = .ok c ↔ ∃ ofSections ofPolicies ofAdvisory,
    doc.sections.mapM Section.rules = .ok ofSections ∧
    doc.policies.mapM PolicySpec.toRule = .ok ofPolicies ∧
    (match doc.advisory with
      | none => ofAdvisory = ⟨[], []⟩
      | some advisory => advisory.rules (doc.activeProfile profile) = .ok ofAdvisory) ∧
    c = ⟨ofSections.flatten ++ ofPolicies ++ ofAdvisory.rules, ofAdvisory.warnings⟩ := by
  unfold compile
  simp only [bind_eq_ok]
  cases doc.advisory with
  | none =>
    simp only [bind_eq_ok, pure_eq_ok]
    constructor
    · rintro ⟨ofSections, hs, ofPolicies, hp, ofAdvisory, rfl, rfl⟩
      exact ⟨ofSections, ofPolicies, _, hs, hp, rfl, rfl⟩
    · rintro ⟨ofSections, ofPolicies, _, hs, hp, rfl, rfl⟩
      exact ⟨ofSections, hs, ofPolicies, hp, _, rfl, rfl⟩
  | some advisory =>
    simp only [bind_eq_ok, pure_eq_ok]
    constructor
    · rintro ⟨ofSections, hs, ofPolicies, hp, ofAdvisory, ha, rfl⟩
      exact ⟨ofSections, ofPolicies, ofAdvisory, hs, hp, ha, rfl⟩
    · rintro ⟨ofSections, ofPolicies, ofAdvisory, hs, hp, ha, rfl⟩
      exact ⟨ofSections, hs, ofPolicies, hp, ofAdvisory, ha, rfl⟩

/-- What a document compiles to as it is written. -/
def compiled (raw : Value) (profile : String) : Except DocumentError Compiled := do
  let v ← Document.read raw
  ((ofValue v).compile profile).mapError .compile

theorem compiled_of_read {raw v : Value} (h : Document.read raw = .ok v) :
    compiled raw profile = ((ofValue v).compile profile).mapError .compile := by
  simp only [compiled, h]
  rfl

/-- A rule that is neither from a policy nor advice is from a section. -/
theorem rule_cases (h : doc.compile profile = .ok c) (hr : rule ∈ c.rules) :
    (∃ s ∈ doc.sections, ∃ rs, s.rules = .ok rs ∧ rule ∈ rs) ∨
      ∀ suggestion ∈ rule.suggestions, suggestion.IsText := by
  obtain ⟨ofSections, ofPolicies, ofAdvisory, hs, hp, ha, rfl⟩ := compile_eq_ok.1 h
  simp only [List.mem_append] at hr
  rcases hr with (hr | hr) | hr
  · obtain ⟨rs, hrs, hr⟩ := List.mem_flatten.1 hr
    obtain ⟨s, hmem, hrules⟩ := exists_of_mem_mapM hs hrs
    exact .inl ⟨s, hmem, rs, hrules, hr⟩
  · obtain ⟨spec, -, hspec⟩ := exists_of_mem_mapM hp hr
    obtain ⟨target, checks, -, -, rfl⟩ := PolicySpec.toRule_eq_ok.1 hspec
    exact .inr fun suggestion => PolicySpec.isText_of_mem
  · cases hadvisory : doc.advisory with
    | none =>
      rw [hadvisory] at ha
      subst ha
      cases hr
    | some advisory =>
      rw [hadvisory] at ha
      exact .inr (Advisory.isAdvice_of_rules ha hr).speaks

/-- All rules of all sections are there. -/
theorem exists_section_rules (h : doc.compile profile = .ok c) {s : Section} (hs : s ∈ doc.sections) :
    ∃ rs, s.rules = .ok rs ∧ ∀ rule ∈ rs, rule ∈ c.rules := by
  obtain ⟨ofSections, ofPolicies, ofAdvisory, hsections, -, -, rfl⟩ := compile_eq_ok.1 h
  obtain ⟨rs, hrs, hrules⟩ := partner_of_mem_left (mapM_eq_ok.1 hsections) hs
  refine ⟨rs, hrules, fun rule hr => ?_⟩
  exact List.mem_append_left _ (List.mem_append_left _ (List.mem_flatten.2 ⟨rs, hrs, hr⟩))

/-- The rule of every policy is there. -/
theorem exists_policy_rule (h : doc.compile profile = .ok c) {spec : PolicySpec} (hs : spec ∈ doc.policies) :
    ∃ rule ∈ c.rules, spec.toRule = .ok rule := by
  obtain ⟨ofSections, ofPolicies, ofAdvisory, -, hpolicies, -, rfl⟩ := compile_eq_ok.1 h
  obtain ⟨rule, hr, hrule⟩ := partner_of_mem_left (mapM_eq_ok.1 hpolicies) hs
  exact ⟨rule, List.mem_append_left _ (List.mem_append_right _ hr), hrule⟩

end Document

namespace RuleSet

/-- What a rule set is made of. -/
theorem ofDocument_eq_ok {raw : Value} {profile : String} {set : RuleSet}
    (h : ofDocument raw profile = .ok set) :
    ∃ v c, Document.read raw = .ok v ∧ (Document.ofValue v).compile profile = .ok c ∧
      set.rules = c.rules := by
  obtain ⟨texts, -, h⟩ := bind_eq_ok.1 h
  obtain ⟨v, hv, h⟩ := bind_eq_ok.1 h
  obtain ⟨c, hc, h⟩ := bind_eq_ok.1 h
  obtain rfl := pure_eq_ok.1 h
  exact ⟨v, c, hv, mapError_eq_ok.1 hc, rfl⟩

end RuleSet
end PolicyGate
