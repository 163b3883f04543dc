import PolicyGate.Proofs.Policy.Folding
import PolicyGate.Proofs.Policy.Inertness

/-!
# No constraint is lost

What a document demands of an action holds of every action that is not denied, and whatever does not hold is a
reason of the denial (`Document.constraints_kept`). On the way from the document to the decision there are four
places where a constraint could get lost: a field of a section that no intent is for, a value that counts as
something and asks for no check (`Intent.covers_ofSection` excludes both), a check that does not become a rule
(`Section.demandOf_mem`), and a rule that does not count in the decision (`Decision.keeps`).

Which fields demand something is said by the shapes of the sections, not by the intents: all but a few that are named
in `Schema.soft`. They turn out to be those that there is an intent to deny for (`Section.isHard_iff`).
-/

namespace PolicyGate

open Attempt

/-! ## What a value of a field asks for -/

/-- The fields of sections that demand nothing: the controls, what is only recommended, and what is suggested. -/
def Schema.soft : List String :=
  ["controls", "require_ddos_plan", "require_private_endpoint_policies_disabled", "require_dns_zone_link"] ++
    suggestions

namespace Intent

variable {path message : String} {fallbacks : List String} {shape item : Shape}

/-- Every value of the shape that counts as something asks for a check, or goes wrong. -/
def Answers (shape : Shape) (check : Value → Except BuildError (Option Check)) : Prop :=
  ∀ x w, shape.read x = .ok (.value w) → w.isTruthy = true → check w ≠ .ok none

theorem termsOf_ne_nil {x w : Value} (h : (Shape.list .text).read x = .ok (.value w)) (hw : w.isTruthy = true) :
    termsOf w ≠ [] := by
  obtain ⟨vs, ws, -, rfl, hws⟩ := Shape.read_list_eq_value.1 h
  cases hws with
  | nil => cases hw
  | cons hfirst _ =>
    obtain ⟨t, rfl⟩ := Shape.read_text_eq_value hfirst
    exact List.cons_ne_nil _ _

theorem patternOf_ne_none {w : Value} (h : ∃ t, w = .str t) (hw : w.isTruthy = true) : patternOf w ≠ none := by
  obtain ⟨t, rfl⟩ := h
  have hne : (!t.isEmpty) = true := hw
  simp [patternOf, Value.str?, given, Option.filter, hne]

theorem answers_denyNames : Answers (.list .text) denyNames := by
  intro x w hx hw
  unfold denyNames
  split
  · exact absurd ‹_› (termsOf_ne_nil hx hw)
  · simp

theorem answers_denyContains : Answers (.list .text) denyContains := by
  intro x w hx hw
  unfold denyContains
  split
  · exact absurd ‹_› (termsOf_ne_nil hx hw)
  · simp

theorem answers_keys : Answers (.list .text) (keys path) := by
  intro x w hx hw
  unfold keys
  split
  · exact absurd ‹_› (termsOf_ne_nil hx hw)
  · simp

theorem answers_anyRegex : Answers (.list .text) (anyRegex path message fallbacks) := by
  intro x w hx hw h
  unfold anyRegex at h
  split at h
  · exact termsOf_ne_nil hx hw ‹_›
  · obtain ⟨_, -, h⟩ := bind_eq_ok.1 h
    obtain ⟨_, -, h⟩ := bind_eq_ok.1 h
    cases h

theorem answers_denyRegex : Answers .text denyRegex := by
  intro x w hx hw h
  unfold denyRegex at h
  split at h
  · exact patternOf_ne_none (Shape.read_text_eq_value hx) hw ‹_›
  · obtain ⟨_, -, h⟩ := bind_eq_ok.1 h
    obtain ⟨_, -, h⟩ := bind_eq_ok.1 h
    cases h

theorem answers_nameRegex : Answers .text nameRegex := by
  intro x w hx hw h
  unfold nameRegex at h
  split at h
  · exact patternOf_ne_none (Shape.read_text_eq_value hx) hw ‹_›
  · obtain ⟨_, -, h⟩ := bind_eq_ok.1 h
    cases h

theorem answers_leastTls {versions : List String} : Answers (.version versions) (leastTls path) := by
  intro x w hx hw
  unfold leastTls
  split
  · exact absurd ‹_› (patternOf_ne_none (Shape.read_version_eq_value hx) hw)
  · simp

theorem answers_allowed {ignoreCase : Bool} {normalizer : Option String} :
    Answers (.list item) (allowed path fallbacks ignoreCase normalizer) := by
  intro x w hx hw
  obtain ⟨vs, ws, -, rfl, -⟩ := Shape.read_list_eq_value.1 hx
  cases ws with
  | nil => cases hw
  | cons first rest => exact fun h => nomatch h

theorem answers_whenSet {test : Test} {words : Option String} :
    Answers .flag (whenSet test path words fallbacks) := by
  intro x w hx hw
  obtain ⟨b, rfl⟩ := Shape.read_flag_eq_value hx
  have hb : b = true := hw
  subst hb
  exact fun h => nomatch h

theorem answers_exactly : Answers shape (exactly path) := by
  intro x w _ _ h
  cases h

/-! ## The intents of a section -/

/-- The intent is one to deny, for the field, and its check answers to the shape of the field. -/
structure Enforces (intent : Intent) (field : String × Shape) : Prop where
  field_eq : intent.field = field.1
  denies : intent.effect = .deny
  answers : ∃ shape, field.2 = .nullable shape ∧ Answers shape intent.check

/-- There is an intent for every field that demands something. -/
def Covers (intents : List Intent) (fs : List (String × Shape)) : Prop :=
  ∀ field ∈ fs, field.1 ∉ Schema.soft → ∃ intent ∈ intents, intent.Enforces field

variable {intents others : List Intent} {fs gs : List (String × Shape)} {field : String × Shape}

theorem Covers.nil : Covers intents [] := by
  intro field hf
  cases hf

theorem Covers.demand {name suffix description : String} {check : Value → Except BuildError (Option Check)}
    (h : Answers shape check) (hrest : Covers intents fs) :
    Covers (⟨name, suffix, description, check, .deny⟩ :: intents) ((name, .nullable shape) :: fs) := by
  intro f hf hsoft
  rcases List.mem_cons.1 hf with rfl | hf
  · exact ⟨_, List.mem_cons_self, rfl, rfl, shape, rfl, h⟩
  · obtain ⟨other, ho, henforces⟩ := hrest f hf hsoft
    exact ⟨other, List.mem_cons_of_mem _ ho, henforces⟩

theorem Covers.soft (h : field.1 ∈ Schema.soft) (hrest : Covers intents fs) : Covers intents (field :: fs) := by
  intro f hf hsoft
  rcases List.mem_cons.1 hf with rfl | hf
  · exact absurd h hsoft
  · exact hrest f hf hsoft

theorem Covers.append (h : Covers intents fs) (hothers : Covers others gs) :
    Covers (intents ++ others) (fs ++ gs) := by
  intro f hf hsoft
  rcases List.mem_append.1 hf with hf | hf
  · obtain ⟨intent, hi, henforces⟩ := h f hf hsoft
    exact ⟨intent, List.mem_append_left _ hi, henforces⟩
  · obtain ⟨intent, hi, henforces⟩ := hothers f hf hsoft
    exact ⟨intent, List.mem_append_right _ hi, henforces⟩

theorem covers_controls : Covers intents Schema.controls := .soft (by decide) .nil

theorem covers_naming : Covers naming Schema.naming := by
  refine .demand answers_denyNames (.demand answers_denyContains ?_)
  refine .demand answers_denyRegex (.demand answers_nameRegex ?_)
  exact .demand answers_whenSet covers_controls

/-- Every section has intents for all of its fields that demand something. -/
theorem covers_ofSection {s : Section} {label : String} {fields : Fields}
    (h : Schema.HasSection s.provider s.kind label fields) :
    ∃ fs, fields = Schema.fields fs ∧ Covers (ofSection s) fs := by
  obtain ⟨provider, kind, entries⟩ := s
  obtain ⟨name, actions, hp, ha⟩ := h
  simp only [Schema.providers, List.mem_cons, List.not_mem_nil, or_false, Prod.mk.injEq] at hp
  -- a field and the intent for it stand at the same place of their lists, in all sections
  rcases hp with ⟨rfl, -, rfl⟩ | ⟨rfl, -, rfl⟩
  · simp only [Schema.azureActions, List.mem_cons, List.not_mem_nil, or_false, Prod.mk.injEq,
      Shape.record.injEq] at ha
    rcases ha with ⟨rfl, -, rfl⟩ | ⟨rfl, -, rfl⟩ | ⟨rfl, -, rfl⟩ | ⟨rfl, -, rfl⟩ | ⟨rfl, -, rfl⟩ |
      ⟨rfl, -, rfl⟩ | ⟨rfl, -, rfl⟩ | ⟨rfl, -, rfl⟩ | ⟨rfl, -, rfl⟩ | ⟨rfl, -, rfl⟩
    · refine ⟨_, rfl, covers_naming.append (.demand answers_allowed (.demand answers_keys ?_))⟩
      exact .soft (by decide) (.soft (by decide) (.soft (by decide) .nil))
    · refine ⟨_, rfl, covers_naming.append (.demand answers_allowed (.demand answers_allowed ?_))⟩
      refine .demand answers_whenSet (.demand answers_leastTls (.demand answers_exactly ?_))
      exact .demand answers_keys .nil
    · refine ⟨_, rfl, covers_naming.append (.demand answers_allowed (.demand answers_whenSet ?_))⟩
      exact .demand answers_whenSet (.demand answers_whenSet (.demand answers_whenSet .nil))
    · refine ⟨_, rfl, .demand answers_allowed (.demand answers_allowed ?_)⟩
      exact .demand answers_keys covers_controls
    · refine ⟨_, rfl, covers_naming.append (.demand answers_allowed (.demand answers_keys ?_))⟩
      exact .soft (by decide) .nil
    · refine ⟨_, rfl, covers_naming.append (.demand answers_whenSet ?_)⟩
      exact .soft (by decide) .nil
    · exact ⟨_, rfl, .demand answers_anyRegex (.soft (by decide) covers_controls)⟩
    · exact ⟨_, rfl, .demand answers_allowed covers_controls⟩
    · refine ⟨_, rfl, covers_naming.append (.demand answers_allowed ?_)⟩
      exact .demand answers_whenSet (.demand answers_leastTls .nil)
    · refine ⟨_, rfl, .demand answers_allowed (.demand answers_allowed ?_)⟩
      exact .demand answers_allowed covers_controls
  · simp only [Schema.githubActions, List.mem_cons, List.not_mem_nil, or_false, Prod.mk.injEq,
      Shape.record.injEq] at ha
    rcases ha with ⟨rfl, -, rfl⟩
    exact ⟨_, rfl, covers_naming.append (.demand answers_allowed (.demand answers_whenSet .nil))⟩

end Intent

/-! ## From a field to its rule -/

namespace Section

variable {s : Section} {rs : List Rule} {intent : Intent} {w : Value} {field : String}

/-- The field is one of the section's, and it demands something. -/
def IsHard (s : Section) (field : String) : Prop :=
  ∃ label fields, Schema.HasSection s.provider s.kind label fields ∧ field ∈ fields.names ∧ field ∉ Schema.soft

/-- The rule that a demand of the section makes of a check. -/
def demandOf (s : Section) (intent : Intent) (check : Check) : Rule :=
  { id := s.action ++ "." ++ intent.suffix, description := intent.description, target := .action s.action,
    effect := intent.effect, checks := [check], controls := s.controls }

theorem demand_eq_demandOf (hw : s.entry? intent.field = some w) {check : Check}
    (hcheck : intent.check w = .ok (some check)) :
    s.demand intent = .ok (some (s.demandOf intent check)) := by
  simp only [demand, hw, hcheck]
  rfl

/-- An intent for which there is a value that asks for something has its rule. -/
theorem demandOf_mem (h : s.rules = .ok rs) (hi : intent ∈ Intent.ofSection s)
    (hw : s.entry? intent.field = some w) (hne : intent.check w ≠ .ok none) :
    ∃ check, intent.check w = .ok (some check) ∧ s.demandOf intent check ∈ rs := by
  obtain ⟨demands, name, region, tags, hdemands, -, -, -, rfl⟩ := rules_eq_ok.1 h
  obtain ⟨rule, hrule, hdemand⟩ := partner_of_mem_left (mapM_eq_ok.1 hdemands) hi
  cases hcheck : intent.check w with
  | error cause =>
    -- then the section has no rules at all
    simp only [demand, hw, hcheck] at hdemand
    cases cause <;> cases hdemand
  | ok asked =>
    cases asked with
    | none => exact absurd hcheck hne
    | some check =>
      rw [demand_eq_demandOf hw hcheck] at hdemand
      obtain rfl := Except.ok.inj hdemand
      have hmem : s.demandOf intent check ∈ demands.filterMap fun rule => rule :=
        List.mem_filterMap.2 ⟨_, hrule, rfl⟩
      exact ⟨check, rfl, List.mem_append_left _ (List.mem_append_left _ (List.mem_append_left _ hmem))⟩

/-- There is an intent to deny for every field that demands something, and it answers to the values of the field. -/
theorem exists_intent (h : s.IsHard field) : ∃ label fields shape,
    Schema.HasSection s.provider s.kind label fields ∧ fields.shape? field = some (.nullable shape) ∧
      ∃ intent ∈ Intent.ofSection s, intent.field = field ∧ intent.effect = .deny ∧
        Intent.Answers shape intent.check := by
  obtain ⟨label, fields, hsection, hmem, hsoft⟩ := h
  obtain ⟨fs, rfl, hcovers⟩ := Intent.covers_ofSection hsection
  obtain ⟨shape, hshape⟩ : ∃ shape, (Schema.fields fs).shape? field = some shape := by
    refine Option.ne_none_iff_exists'.1 ?_
    intro hnone
    exact Fields.shape?_eq_none_iff.1 hnone hmem
  obtain ⟨intent, hi, hfield, hdeny, inner, heq, hanswers⟩ :=
    hcovers _ (Schema.mem_of_shape?_fields hshape) hsoft
  obtain rfl : shape = .nullable inner := heq
  exact ⟨label, _, inner, hsection, hshape, intent, hi, hfield, hdeny, hanswers⟩

/-- A field demands something exactly when there is an intent to deny for it. -/
theorem isHard_iff {label : String} {fields : Fields} (h : Schema.HasSection s.provider s.kind label fields) :
    s.IsHard field ↔ ∃ intent ∈ Intent.ofSection s, intent.field = field ∧ intent.effect = .deny := by
  constructor
  · intro hhard
    obtain ⟨_, _, _, -, -, intent, hi, hfield, hdeny, -⟩ := exists_intent hhard
    exact ⟨intent, hi, hfield, hdeny⟩
  · rintro ⟨intent, hi, rfl, hdeny⟩
    have htable : ∀ row ∈ Intent.table, ∀ intent ∈ row.2, intent.effect = .deny → intent.field ∉ Schema.soft := by
      decide
    obtain ⟨-, -, hnames⟩ := Schema.bare_of_hasSection h
    refine ⟨label, fields, h, hnames intent hi, ?_⟩
    obtain ⟨row, hrow, hi⟩ := Intent.exists_row hi
    exact htable row hrow intent hi hdeny

/-- A value of a field that demands something has a rule if it counts as something. -/
theorem exists_demandOf {raw v : Value} (hread : Document.read raw = .ok v)
    (hs : s ∈ (Document.ofValue v).sections) (hrules : s.rules = .ok rs) (hf : s.IsHard field)
    (hw : s.truthy? field = some w) :
    ∃ intent ∈ Intent.ofSection s, intent.field = field ∧ intent.effect = .deny ∧
      ∃ check, intent.check w = .ok (some check) ∧ s.demandOf intent check ∈ rs := by
  obtain ⟨label, fields, shape, hsection, hshape, intent, hi, rfl, hdeny, hanswers⟩ := exists_intent hf
  obtain ⟨hentry, htruthy⟩ := Option.filter_eq_some_iff.1 hw
  obtain ⟨x, hx⟩ := Document.read_truthy? hread hs hsection hshape hw
  obtain ⟨check, hcheck, hrule⟩ := demandOf_mem hrules hi hentry (hanswers x w hx htruthy)
  exact ⟨intent, hi, rfl, hdeny, check, hcheck, hrule⟩

end Section

/-! ## From a rule to the decision -/

namespace Rule

variable {args : Value} {context : Context} {rule : Rule} {check : Check} {found : List (Option String)}

/-- A rule that would deny the action and does not has found nothing wrong with it. -/
theorem passed_of_not_denies (h : ¬ rule.Denies args context) (he : rule.effect = .deny) (hc : check ∈ rule.checks) :
    check.violation args = .ok none := by
  have hne : rule.checks ≠ [] := List.ne_nil_of_mem hc
  -- a check without an answer would have the rule deny, and so would a message
  rcases exists_ok_or_error (rule.checks.mapM (Check.violation args)) with ⟨found, hfound⟩ | ⟨e, hstuck⟩
  · have houtcome := Decision.outcome_of_ok (@violations_of_mapM args context rule found hne hfound)
    have hmessages : (found.filterMap fun message => message) = [] := by
      by_contra hsome
      refine h ⟨?_, ?_⟩
      · rw [Triggers, houtcome]
        exact hsome
      · rw [houtcome]
        exact he
    obtain ⟨message, hmem, hmessage⟩ := partner_of_mem_left (mapM_eq_ok.1 hfound) hc
    rw [hmessage, List.filterMap_eq_nil_iff.1 hmessages message hmem]
  · exact absurd (Decision.denies_of_isStuck (isStuck_of_mapM hne hstuck)) h

/-- A rule that finds something wrong is triggered, and all it has found is its reason. -/
theorem reason_of_mapM (h : rule.checks.mapM (Check.violation args) = .ok found)
    (hsome : (found.filterMap fun message => message) ≠ []) :
    rule.Triggers args context ∧ rule.reason args context =
      rule.id ++ ": " ++ String.intercalate "; " (found.filterMap fun message => message) := by
  have hne : rule.checks ≠ [] := by
    intro hnil
    rw [hnil] at h
    obtain rfl := pure_eq_ok.1 h
    exact hsome rfl
  have houtcome := Decision.outcome_of_ok (@violations_of_mapM args context rule found hne h)
  rw [Triggers, reason, houtcome]
  exact ⟨hsome, rfl⟩

end Rule

namespace Decision

variable {rules : List Rule} {rule : Rule} {action : String} {args : Value} {context : Context} {d : Decision}

/-- What is to be kept of a rule in a decision. -/
structure Keeps (d : Decision) (args : Value) (rule : Rule) : Prop where
  /-- An action that is not denied has passed all of its checks. -/
  satisfied : d.verdict ≠ .deny → ∀ check ∈ rule.checks, check.violation args = .ok none
  /-- When it is denied and the checks have found something wrong, all that they have found is a reason. -/
  reported : d.verdict = .deny → ∀ found, rule.checks.mapM (Check.violation args) = .ok found →
    (found.filterMap fun message => message) ≠ [] →
      rule.id ++ ": " ++ String.intercalate "; " (found.filterMap fun message => message) ∈ d.reasons

/-- A rule that is to deny is kept in every decision about an action it is for. -/
theorem keeps (h : ofRules rules action args context = .ok d) (hr : rule ∈ rules)
    (hc : rule.target.covers action = true) (he : rule.effect = .deny) : d.Keeps args rule := by
  constructor
  · intro hv check hcheck
    have hnot : ¬ rule.Denies args context := by
      intro hdenies
      exact hv ((verdict_of_ofRules h).2 ⟨rule, hr, hc, hdenies⟩)
    exact Rule.passed_of_not_denies hnot he hcheck
  · intro hv found hfound hsome
    obtain ⟨htriggers, hreason⟩ := @Rule.reason_of_mapM args context rule found hfound hsome
    rw [← hreason, reasons_of_deny h hv]
    refine List.mem_map_of_mem (List.mem_filter.2 ⟨List.mem_filter.2 ⟨hr, hc⟩, ?_⟩)
    exact decide_eq_true htriggers

end Decision

/-- The set has the rule, and keeps it in every decision about an action that is called so, by this name or by
another. -/
structure RuleSet.Enforces (set : RuleSet) (called : String → Prop) (rule : Rule) : Prop where
  mem : rule ∈ set.rules
  keeps : ∀ action args context d, called (set.resolveAction action) →
    set.evaluate action args context = .ok d → d.Keeps args rule

/-! ## From the document to the decision -/

namespace Document

variable {raw v : Value} {profile : String} {c : Compiled} {set : RuleSet}

/-- No constraint is lost between a document that compiles and a decision. Every value of a section's field that
demands something has a check, and every policy has all of its checks, in order; where they are to deny, their rules
are enforced. A denial has a reason for each rule for the action that is triggered, in order, and no other. -/
theorem constraints_kept (hread : Document.read raw = .ok v) (hc : (ofValue v).compile profile = .ok c)
    (hset : set.rules = c.rules) :
    (∀ s ∈ (ofValue v).sections, ∀ field w, s.IsHard field → s.truthy? field = some w →
      ∃ intent ∈ Intent.ofSection s, intent.field = field ∧ intent.effect = .deny ∧
        ∃ check, intent.check w = .ok (some check) ∧ set.Enforces (· = s.action) (s.demandOf intent check)) ∧
    (∀ spec ∈ (ofValue v).policies, spec.effect = .deny →
      ∃ target checks, spec.target.toTarget = .ok target ∧
        List.Forall₂ (fun entry check => CheckSpec.toCheck entry = .ok check) spec.checks checks ∧
          set.Enforces (target.covers · = true) (spec.rule target .deny checks)) ∧
    ∀ action args context d, set.evaluate action args context = .ok d → d.verdict = .deny → d.reasons =
      ((set.rules.filter (·.target.covers (set.resolveAction action))).filter
        (·.Triggers args context)).map (Rule.reason args context) := by
  refine ⟨?_, ?_, fun action args context d hd hdeny => Decision.reasons_of_deny hd hdeny⟩
  · intro s hs field w hhard hw
    obtain ⟨rs, hrs, hall⟩ := exists_section_rules hc hs
    obtain ⟨intent, hi, hfield, hdeny, check, hcheck, hmem⟩ := Section.exists_demandOf hread hs hrs hhard hw
    have hrule : s.demandOf intent check ∈ set.rules := hset ▸ hall _ hmem
    refine ⟨intent, hi, hfield, hdeny, check, hcheck, hrule, ?_⟩
    intro action args context d haction hd
    have hcovers : (s.demandOf intent check).target.covers (set.resolveAction action) = true :=
      beq_iff_eq.2 haction.symm
    exact Decision.keeps hd hrule hcovers hdeny
  · intro spec hspec hdeny
    obtain ⟨rule, hr, hrule⟩ := exists_policy_rule hc hspec
    obtain ⟨target, checks, htarget, hchecks, rfl⟩ := PolicySpec.toRule_eq_ok.1 hrule
    rw [hdeny] at hr
    have hmem : spec.rule target .deny checks ∈ set.rules := hset ▸ hr
    refine ⟨target, checks, htarget, hchecks, hmem, ?_⟩
    intro action args context d hcovers hd
    exact Decision.keeps hd hmem hcovers rfl

/-! ### A demand and a policy, for one action -/

/-- A document with another name for an action, a demand of its section, and a policy with two checks. -/
def guarded : Value := .record
  [("aliases", .record [("new_storage", .str "azure.create_storage_account")]),
   ("azure", .record [("create_storage_account", .record [("require_https_only", .bool true)])]),
   ("policies", .list [.record [("id", .str "p"), ("target", .record [("prefix", .str "azure")]), ("checks", .list
     [.record [("type", .str "requiredPresent"), ("path", .str "owner")],
      .record [("type", .str "noSpaces"), ("path", .str "name")]])]])]

/-- The action of a name with a blank in it, without an owner. -/
def careless : Value := .record [("name", .str "my data")]

/-- The same action as the document wants it. -/
def careful : Value := .record [("name", .str "mydata"), ("owner", .str "me"), ("httpsOnly", .bool true)]

/-- The careless action is denied for all that is wrong with it: the demand of the section is not met, and neither
check of the policy is passed. When the action is careful it is allowed, and the demand is met. -/
theorem guarded_constraints_kept :
    ∃ v set denied allowed, Document.read guarded = .ok v ∧ RuleSet.ofDocument guarded "" = .ok set ∧
      set.evaluate "new_storage" careless [] = .ok denied ∧ denied.verdict = .deny ∧
      denied.reasons = ["azure.create_storage_account.httpsOnly: https-only must be enabled",
        "p: Field 'owner' is required; Field 'name' must not contain spaces"] ∧
      set.evaluate "new_storage" careful [] = .ok allowed ∧ allowed.verdict = .allow ∧
      ∃ s ∈ (ofValue v).sections, ∃ w, s.truthy? "require_https_only" = some w ∧
        ∃ intent ∈ Intent.ofSection s, ∃ check, intent.check w = .ok (some check) ∧
          denied.Keeps careless (s.demandOf intent check) ∧ check.violation careful = .ok none := by
  have hsections : ((Document.read guarded).toOption.map fun v => (ofValue v).sections.map fun s =>
      (s.provider, s.kind, (s.truthy? "require_https_only").isSome)) =
        some [("azure", "create_storage_account", true)] := by decide +kernel
  have hdecisions : ((RuleSet.ofDocument guarded "").toOption.map fun set =>
      (set.resolveAction "new_storage", [careless, careful].map fun args =>
        (set.evaluate "new_storage" args []).toOption.map fun d => (d.verdict, d.reasons))) =
      some ("azure.create_storage_account",
        [some (.deny, ["azure.create_storage_account.httpsOnly: https-only must be enabled",
          "p: Field 'owner' is required; Field 'name' must not contain spaces"]), some (.allow, [])]) := by
    decide +kernel
  simp only [Option.map_eq_some_iff, toOption_eq_some, List.map_cons, List.map_nil, Prod.mk.injEq,
    List.cons.injEq, and_true] at hsections hdecisions
  obtain ⟨v, hv, hsections⟩ := hsections
  obtain ⟨set, hset, haction, ⟨denied, hdenied, hdeny, hreasons⟩, allowed, hallowed, hallow, -⟩ := hdecisions
  obtain ⟨v', c, hv', hc, hrules⟩ := RuleSet.ofDocument_eq_ok hset
  obtain rfl := Except.ok.inj (hv.symm.trans hv')
  obtain ⟨s, hs, hentry⟩ := List.map_eq_singleton_iff.1 hsections
  obtain ⟨hprovider, hkind, hsome⟩ := Prod.mk.inj hentry |>.imp_right Prod.mk.inj
  obtain ⟨w, hw⟩ := Option.isSome_iff_exists.1 hsome
  have hmem : s ∈ (ofValue v).sections := by
    rw [hs]
    exact List.mem_singleton_self s
  have hcalled : set.resolveAction "new_storage" = s.action := by
    rw [haction, Section.action, hprovider, hkind]
    rfl
  have hhard : s.IsHard "require_https_only" := by
    rw [Section.IsHard, hprovider, hkind]
    exact ⟨_, _, ⟨_, _, List.mem_cons_self, List.mem_cons_of_mem _ List.mem_cons_self⟩, by decide, by decide⟩
  obtain ⟨intent, hi, -, -, check, hcheck, hkept⟩ :=
    (constraints_kept hv hc hrules).1 s hmem _ w hhard hw
  refine ⟨v, set, denied, allowed, hv, hset, hdenied, hdeny, hreasons, hallowed, hallow, s, hmem, w, hw, intent,
    hi, check, hcheck, ?_, ?_⟩
  · exact hkept.keeps _ _ _ _ hcalled hdenied
  · have hnot : allowed.verdict ≠ .deny := by
      rw [hallow]
      decide
    exact (hkept.keeps _ _ _ _ hcalled hallowed).satisfied hnot check List.mem_cons_self

end Document
end PolicyGate
