import PolicyGate.Proofs.Policy.Enforcement

/-!
# What rules hang on

A rule without checks is triggered by every action it is for. A rule that lost its checks on the way from the document
would therefore not say less but more: where it was to deny some actions, it would deny all. Checks are left out in three
places, when a value of a section demands nothing, when an entry of the advisory section cannot be used, and when an
entry of a policy cannot be used. In the first two the rule goes with its last check, and in the third the document does.

So the rules without checks are those that were written so: what a section suggests, and policies without entries
(`Document.free_iff`). All others have the checks that they were written with.
-/

namespace PolicyGate

open Attempt

namespace Section

variable {s : Section} {rs : List Rule} {rule : Rule} {field : String}

/-- The fields that a section makes suggestions of, with the keys under which their values are proposed. -/
def proposals : List (String × String) :=
  [("suggest_name", "name"), ("suggest_region", "location"), ("suggest_tags", "tags")]

/-- The rule does nothing but suggest the value of a field, to every action of the section. -/
structure Proposes (s : Section) (field key : String) (v : Value) (rule : Rule) : Prop where
  written : s.truthy? field = some v
  target_eq : rule.target = .action s.action
  warns : rule.effect = .warn
  free : rule.checks = []
  proposed : ∃ suggestion, rule.suggestions = [suggestion] ∧ suggestion.fix = some (.record [(key, v)])

/-- The rule is what becomes of a suggestion of the section. -/
def IsProposal (s : Section) (rule : Rule) : Prop :=
  ∃ field key v, (field, key) ∈ proposals ∧ s.Proposes field key v rule

/-- The rule is what becomes of a demand of the section: the value that is demanded asks for one check, and the rule has
this check. -/
def IsDemand (s : Section) (rule : Rule) : Prop :=
  ∃ intent ∈ Intent.ofSection s, ∃ v check, s.entry? intent.field = some v ∧
    intent.check v = .ok (some check) ∧ rule = s.demandOf intent check

theorem isDemand_of_demand {intent : Intent} (hi : intent ∈ Intent.ofSection s)
    (h : s.demand intent = .ok (some rule)) : s.IsDemand rule := by
  cases hentry : s.entry? intent.field with
  | none =>
    rw [demand, hentry] at h
    cases h
  | some v =>
    cases hcheck : intent.check v with
    | error e =>
      simp only [demand, hentry, hcheck] at h
      cases e <;> cases h
    | ok asked =>
      cases asked with
      | none =>
        simp only [demand, hentry, hcheck] at h
        cases h
      | some check =>
        rw [demand_eq_demandOf hentry hcheck] at h
        have hrule : s.demandOf intent check = rule := Option.some.inj (Except.ok.inj h)
        exact ⟨intent, hi, v, check, hentry, hcheck, hrule.symm⟩

theorem proposes_of_single {suffix lead title key : String}
    (h : s.single field suffix lead title key = .ok rs) (hr : rule ∈ rs) :
    ∃ v, s.Proposes field key v rule := by
  rw [single_eq_ok] at h
  cases hv : s.truthy? field with
  | none =>
    rw [hv] at h
    rw [h] at hr
    cases hr
  | some v =>
    rw [hv] at h
    obtain ⟨text, -, rfl⟩ := h
    obtain rfl := List.mem_singleton.1 hr
    exact ⟨v, hv, rfl, rfl, rfl, _, rfl, rfl⟩

theorem proposes_of_tagAdvice (h : s.tagAdvice = .ok rs) (hr : rule ∈ rs) :
    ∃ v, s.Proposes "suggest_tags" "tags" v rule := by
  unfold tagAdvice at h
  split at h
  · obtain rfl := Except.ok.inj h
    cases hr
  · rename_i entries hv
    obtain ⟨parts, -, h⟩ := bind_eq_ok.1 h
    obtain rfl := pure_eq_ok.1 h
    obtain rfl := List.mem_singleton.1 hr
    exact ⟨_, hv, rfl, rfl, rfl, _, rfl, rfl⟩
  · cases h

/-- A section has rules for what it demands and for what it suggests. -/
theorem isDemand_or_isProposal (h : s.rules = .ok rs) (hr : rule ∈ rs) : s.IsDemand rule ∨ s.IsProposal rule := by
  obtain ⟨demands, name, region, tags, hdemands, hname, hregion, htags, rfl⟩ := rules_eq_ok.1 h
  simp only [List.mem_append] at hr
  rcases hr with ((hr | hr) | hr) | hr
  · left
    obtain ⟨demand, hd, hsome⟩ := List.mem_filterMap.1 hr
    obtain ⟨intent, hi, hintent⟩ := exists_of_mem_mapM hdemands hd
    rw [hsome] at hintent
    exact isDemand_of_demand hi hintent
  · right
    obtain ⟨v, hv⟩ := proposes_of_single hname hr
    exact ⟨_, _, v, by simp [proposals], hv⟩
  · right
    obtain ⟨v, hv⟩ := proposes_of_single hregion hr
    exact ⟨_, _, v, by simp [proposals], hv⟩
  · right
    obtain ⟨v, hv⟩ := proposes_of_tagAdvice htags hr
    exact ⟨_, _, v, by simp [proposals], hv⟩

theorem IsDemand.checks_ne_nil (h : s.IsDemand rule) : rule.checks ≠ [] := by
  obtain ⟨intent, -, v, check, -, -, rfl⟩ := h
  exact List.cons_ne_nil check []

theorem IsProposal.free (h : s.IsProposal rule) : rule.checks = [] := by
  obtain ⟨field, key, v, -, hv⟩ := h
  exact hv.free

end Section

/-- The rule has the checks that the entries of the policy ask for, one for each entry, in order. -/
def PolicySpec.Keeps (spec : PolicySpec) (rule : Rule) : Prop :=
  List.Forall₂ (fun entry check => CheckSpec.toCheck entry = .ok check) spec.checks rule.checks

theorem PolicySpec.keeps_of_toRule {spec : PolicySpec} {rule : Rule} (h : spec.toRule = .ok rule) :
    spec.Keeps rule := by
  obtain ⟨target, checks, -, hchecks, rfl⟩ := toRule_eq_ok.1 h
  exact hchecks

theorem PolicySpec.Keeps.checks_eq_nil_iff {spec : PolicySpec} {rule : Rule} (h : spec.Keeps rule) :
    rule.checks = [] ↔ spec.checks = [] := by
  have hlength : spec.checks.length = rule.checks.length := List.Forall₂.length_eq h
  rw [← List.length_eq_zero_iff, ← List.length_eq_zero_iff, hlength]

namespace Document

variable {doc : Document} {profile : String} {c : Compiled}

/-- The rules of a document are those of its sections, which have one check for each demand and none for each
suggestion, those of its policies, which have one check for each entry, and advice, which has checks. So a rule
without checks is what a section suggests, or a policy without entries, and nothing else. -/
theorem free_iff (h : doc.compile profile = .ok c) :
    (∃ ofSections ofPolicies advice, c.rules = ofSections.flatten ++ ofPolicies ++ advice ∧
      List.Forall₂ (fun s rs => s.rules = .ok rs ∧ ∀ rule ∈ rs, s.IsDemand rule ∨ s.IsProposal rule)
        doc.sections ofSections ∧
      List.Forall₂ (fun spec rule => spec.toRule = .ok rule ∧ spec.Keeps rule) doc.policies ofPolicies ∧
      ∀ rule ∈ advice, rule.effect = .warn ∧ rule.checks ≠ []) ∧
    ∀ rule ∈ c.rules, rule.checks = [] ↔
      (∃ s ∈ doc.sections, s.IsProposal rule) ∨
        ∃ spec ∈ doc.policies, spec.checks = [] ∧ spec.toRule = .ok rule := by
  obtain ⟨ofSections, ofPolicies, ofAdvisory, hs, hp, ha, rfl⟩ := compile_eq_ok.1 h
  have hsections : List.Forall₂ (fun s rs => s.rules = .ok rs ∧ ∀ rule ∈ rs, s.IsDemand rule ∨ s.IsProposal rule)
      doc.sections ofSections :=
    (mapM_eq_ok.1 hs).imp fun s rs hrs => ⟨hrs, fun rule hr => Section.isDemand_or_isProposal hrs hr⟩
  have hpolicies : List.Forall₂ (fun spec rule => spec.toRule = .ok rule ∧ PolicySpec.Keeps spec rule)
      doc.policies ofPolicies :=
    (mapM_eq_ok.1 hp).imp fun spec rule hrule => ⟨hrule, PolicySpec.keeps_of_toRule hrule⟩
  have hadvice : ∀ rule ∈ ofAdvisory.rules, rule.effect = .warn ∧ rule.checks ≠ [] := by
    cases hadvisory : doc.advisory with
    | none =>
      rw [hadvisory] at ha
      simp [ha]
    | some advisory =>
      rw [hadvisory] at ha
      intro rule hr
      have hrule := Advisory.isAdvice_of_rules ha hr
      exact ⟨hrule.warns, hrule.looks⟩
  refine ⟨⟨ofSections, ofPolicies, ofAdvisory.rules, rfl, hsections, hpolicies, hadvice⟩, ?_⟩
  intro rule hr
  constructor
  · intro hfree
    -- a rule is of a section, of a policy or advice; demands and advice look at something
    simp only [List.mem_append] at hr
    rcases hr with (hr | hr) | hr
    · obtain ⟨rs, hrs, hr⟩ := List.mem_flatten.1 hr
      obtain ⟨s, hmem, -, hcases⟩ := partner_of_mem_right hsections hrs
      rcases hcases rule hr with hdemand | hproposal
      · exact absurd hfree hdemand.checks_ne_nil
      · exact .inl ⟨s, hmem, hproposal⟩
    · obtain ⟨spec, hmem, hrule, hkeeps⟩ := partner_of_mem_right hpolicies hr
      exact .inr ⟨spec, hmem, hkeeps.checks_eq_nil_iff.1 hfree, hrule⟩
    · exact absurd hfree (hadvice rule hr).2
  · rintro (⟨s, -, hproposal⟩ | ⟨spec, -, hnone, hrule⟩)
    · exact hproposal.free
    · exact (PolicySpec.keeps_of_toRule hrule).checks_eq_nil_iff.2 hnone

/-! ### A document with all kinds of rules -/

/-- A document that demands something, that suggests something, with a policy without entries and one with two, and with
two pieces of advice. The first asks for a check of an unknown kind and for nothing else, the second for such a check
and for another one. -/
def assorted : Value := .record
  [("azure", .record [("create_resource_group", .record
     [("name_no_spaces", .bool true), ("deny_names", .list []), ("suggest_name", .str "rg-app")])]),
   ("policies", .list
     [.record [("id", .str "p"), ("target", .record [("prefix", .str "azure")])],
      .record [("id", .str "q"), ("target", .record [("prefix", .str "azure")]), ("checks", .list
        [.record [("type", .str "requiredPresent"), ("path", .str "owner")],
         .record [("type", .str "noSpaces"), ("path", .str "name")]])]]),
   ("ato", .record [("policies", .list
     [.record [("id", .str "a"), ("target", .record [("prefix", .str "azure")]), ("checks", .list
        [.record [("type", .str "between"), ("path", .str "size")]])],
      .record [("id", .str "b"), ("target", .record [("prefix", .str "azure")]), ("checks", .list
        [.record [("type", .str "between"), ("path", .str "size")],
         .record [("type", .str "requiredTrue"), ("path", .str "httpsOnly")]])]])])]

/-- It has five rules. The two without checks are the suggestion and the policy without entries. -/
theorem assorted_free :
    ∃ v c, Document.read assorted = .ok v ∧ (ofValue v).compile "" = .ok c ∧
      (c.rules.map fun rule => (rule.id, rule.checks.length)) =
        [("azure.create_resource_group.nameNoSpaces", 1), ("azure.create_resource_group.suggestName", 0),
          ("p", 0), ("q", 2), ("b", 1)] ∧
      ∀ rule ∈ c.rules, rule.checks = [] ↔
        (∃ s ∈ (ofValue v).sections, s.IsProposal rule) ∨
          ∃ spec ∈ (ofValue v).policies, spec.checks = [] ∧ spec.toRule = .ok rule := by
  have hrules : ((Document.read assorted).toOption.bind fun v => ((ofValue v).compile "").toOption.map fun c =>
      c.rules.map fun rule => (rule.id, rule.checks.length)) =
        some [("azure.create_resource_group.nameNoSpaces", 1), ("azure.create_resource_group.suggestName", 0),
          ("p", 0), ("q", 2), ("b", 1)] := by
    decide +kernel
  simp only [Option.bind_eq_some_iff, Option.map_eq_some_iff, toOption_eq_some] at hrules
  obtain ⟨v, hv, c, hc, hrules⟩ := hrules
  exact ⟨v, c, hv, hc, hrules, (free_iff hc).2⟩

end Document
end PolicyGate
