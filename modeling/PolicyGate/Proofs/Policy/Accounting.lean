import PolicyGate.Proofs.Policy.Tolerance

/-!
# An account of the advisory section

Compiling the advisory section makes two lists in one go, the rules and the warnings. Here both are told from what the
section has in it, one by one and in order (`Document.advice_accounted`). On the way through the section there are
encounters of two kinds (`Advisory.Encounter`): owners of checks, which have a target, and things without a target. The
rules come from the owners alone, one from each that has a check which can be used. The warnings come from both.

An owner is never dropped without a warning unless it has no entries at all (`Owner.rule?_eq_none_iff`).
-/

namespace PolicyGate

open Attempt

/-- The entry asks for a check, or it is rejected for a reason. It does not fail in another way. -/
def CheckSpec.IsJudged (spec : CheckSpec) : Prop :=
  (∃ check, spec.toCheck = .ok check) ∨ ∃ cause, spec.toCheck = .error (.unusable cause)

/-- Why the entry is rejected, if it is. -/
def CheckSpec.rejection? (spec : CheckSpec) : Option Unusable :=
  match spec.toCheck with
  | .error (.unusable cause) => some cause
  | _ => none

namespace Advisory

/-! ## Owners of checks -/

/-- A rule that has no checks yet, and the entries that ask for them. -/
structure Owner where
  bare : Rule
  specs : List CheckSpec

namespace Owner

variable {o : Owner}

/-- The checks of those entries that can be used, in order. -/
def checks (o : Owner) : List Check := o.specs.filterMap CheckSpec.check?

/-- The rule with these checks, if there are any. -/
def rule? (o : Owner) : Option Rule :=
  if o.checks.isEmpty then none else some { o.bare with checks := o.checks }

/-- A warning for each of the other entries, in order. -/
def warnings (o : Owner) : List String :=
  o.specs.filterMap fun spec => spec.rejection?.map fun cause => o.bare.id ++ ": " ++ cause.message

/-- All entries of the owner are accepted or rejected. -/
def IsJudged (o : Owner) : Prop := ∀ spec ∈ o.specs, spec.IsJudged

/-- Every entry is in one of the two lists, and in one only. -/
theorem length_checks_add_warnings (h : o.IsJudged) : o.checks.length + o.warnings.length = o.specs.length := by
  obtain ⟨bare, specs⟩ := o
  simp only [checks, warnings, IsJudged] at h ⊢
  induction specs with
  | nil => rfl
  | cons spec rest ih =>
    obtain ⟨hspec, hrest⟩ := List.forall_mem_cons.1 h
    have hlengths := ih hrest
    rw [List.length_cons]
    rcases hspec with ⟨check, hok⟩ | ⟨cause, hrejected⟩
    · have haccepted : spec.check? = some check := by simp [CheckSpec.check?, hok, Except.toOption]
      have hnot : spec.rejection? = none := by simp [CheckSpec.rejection?, hok]
      simp only [List.filterMap_cons, haccepted, hnot, Option.map_none, List.length_cons]
      omega
    · have hnot : spec.check? = none := by simp [CheckSpec.check?, hrejected, Except.toOption]
      have hsome : spec.rejection? = some cause := by simp [CheckSpec.rejection?, hrejected]
      simp only [List.filterMap_cons, hnot, hsome, Option.map_some, List.length_cons]
      omega

/-- Where there is no rule, no entry can be used, and there is a warning for each. -/
theorem rule?_eq_none_iff (h : o.IsJudged) : o.rule? = none ↔ o.warnings.length = o.specs.length := by
  have hlengths := length_checks_add_warnings h
  have hempty : o.rule? = none ↔ o.checks.length = 0 := by
    unfold rule?
    cases o.checks <;> simp
  rw [hempty]
  omega

end Owner

/-- The usable checks and the warnings of an owner are told entry by entry. -/
theorem usableChecks_eq_ok {bare : Rule} {specs : List CheckSpec} {checks : List Check} {warnings : List String}
    (h : usableChecks bare.id specs = .ok (checks, warnings)) :
    checks = (Owner.mk bare specs).checks ∧ warnings = (Owner.mk bare specs).warnings ∧
      (Owner.mk bare specs).IsJudged := by
  simp only [Owner.checks, Owner.warnings, Owner.IsJudged]
  induction specs generalizing checks warnings with
  | nil =>
    cases h
    exact ⟨rfl, rfl, by simp⟩
  | cons spec rest ih =>
    rw [usableChecks] at h
    cases hspec : spec.toCheck with
    | ok check =>
      rw [hspec] at h
      obtain ⟨⟨more, others⟩, hrest, heq⟩ := map_eq_ok.1 h
      cases heq
      obtain ⟨rfl, rfl, hjudged⟩ := ih hrest
      have haccepted : spec.check? = some check := by simp [CheckSpec.check?, hspec, Except.toOption]
      have hnot : spec.rejection? = none := by simp [CheckSpec.rejection?, hspec]
      refine ⟨?_, ?_, List.forall_mem_cons.2 ⟨.inl ⟨check, hspec⟩, hjudged⟩⟩
      · rw [List.filterMap_cons_some haccepted]
      · rw [List.filterMap_cons_none (by rw [hnot]; rfl)]
    | error e =>
      rw [hspec] at h
      cases e with
      | pattern text fault => cases h
      | unusable cause =>
        obtain ⟨⟨more, others⟩, hrest, heq⟩ := map_eq_ok.1 h
        cases heq
        obtain ⟨rfl, rfl, hjudged⟩ := ih hrest
        have hnot : spec.check? = none := by simp [CheckSpec.check?, hspec, Except.toOption]
        have hsome : spec.rejection? = some cause := by simp [CheckSpec.rejection?, hspec]
        refine ⟨?_, ?_, List.forall_mem_cons.2 ⟨.inr ⟨cause, hspec⟩, hjudged⟩⟩
        · rw [List.filterMap_cons_none hnot]
        · rw [List.filterMap_cons_some (by rw [hsome]; rfl)]

/-! ## The way through the section -/

/-- What there is on the way through the section: an owner with a target, or something that has no target, with its
problem in words. -/
inductive Encounter where
  | owner (o : Owner)
  | blocked (problem : String)

namespace Encounter

/-- The owner, if there is one. -/
def owner? : Encounter → Option Owner
  | owner o => some o
  | blocked _ => none

/-- The warnings about it. -/
def warnings : Encounter → List String
  | owner o => o.warnings
  | blocked problem => [problem]

/-- What it comes to. -/
def compiled (e : Encounter) : Compiled := ⟨(e.owner?.bind Owner.rule?).toList, e.warnings⟩

/-- If it is an owner, its entries are accepted or rejected. -/
def IsJudged (e : Encounter) : Prop := ∀ o, e.owner? = some o → o.IsJudged

theorem isJudged_blocked {problem : String} : (blocked problem).IsJudged := nofun

theorem isJudged_owner {o : Owner} (h : o.IsJudged) : (owner o).IsJudged := by
  intro o' ho
  obtain rfl := Option.some.inj ho
  exact h

end Encounter

/-- The encounters in a domain of a profile: its entries if it has a target, whether it says so or is known to. -/
def domainEncounters (profile : String) (domain : String × AdvisoryDomain) : List Encounter :=
  match domainTarget (ownerOf profile domain.1) domain.1 domain.2 with
  | .error problem => [.blocked problem]
  | .ok target => domain.2.rules.map fun (code, entry) =>
    .owner ⟨bareRule (ownerOf profile domain.1) target code entry, entry.checks⟩

/-- The encounter with a policy. -/
def policyEncounter (spec : PolicySpec) : Encounter :=
  match spec.target.toTarget with
  | .error e => .blocked (spec.id ++ ": " ++ e.message)
  | .ok target => .owner ⟨spec.rule target .warn [], spec.checks⟩

/-- All encounters on the way through the section: domain by domain of the profile, then policy by policy. -/
def encounters (advisory : Advisory) (profile : String) : List Encounter :=
  (advisory.domains profile).flatMap (domainEncounters profile) ++ advisory.policies.map policyEncounter

/-- The owners among them. -/
def owners (advisory : Advisory) (profile : String) : List Owner :=
  (advisory.encounters profile).filterMap Encounter.owner?

/-- The owners are what the section offers. -/
theorem mem_owners_iff {advisory : Advisory} {profile : String} {o : Owner} :
    o ∈ advisory.owners profile ↔ advisory.Offers profile o.bare o.specs := by
  simp only [owners, encounters, List.mem_filterMap, List.mem_append, List.mem_flatMap, List.mem_map]
  constructor
  · rintro ⟨e, ⟨⟨name, domain⟩, hdomain, he⟩ | ⟨spec, hspec, rfl⟩, ho⟩
    · unfold domainEncounters at he
      cases htarget : domainTarget (ownerOf profile name) name domain with
      | error problem =>
        simp only [htarget, List.mem_singleton] at he
        subst he
        -- a domain without a target is encountered as a warning, and a warning is no owner
        cases ho
      | ok target =>
        simp only [htarget, List.mem_map] at he
        obtain ⟨⟨code, entry⟩, hentry, rfl⟩ := he
        cases ho
        exact .entry hdomain htarget hentry
    · unfold policyEncounter at ho
      cases htarget : spec.target.toTarget with
      | error e =>
        rw [htarget] at ho
        cases ho
      | ok target =>
        rw [htarget] at ho
        cases ho
        exact .policy hspec htarget
  · intro h
    obtain ⟨bare, specs⟩ := o
    cases h with
    | @entry name code domain target entry hdomain htarget hentry =>
      refine ⟨.owner ⟨bareRule (ownerOf profile name) target code entry, entry.checks⟩,
        .inl ⟨(name, domain), hdomain, ?_⟩, rfl⟩
      simp only [domainEncounters, htarget]
      exact List.mem_map.2 ⟨(code, entry), hentry, rfl⟩
    | @policy spec target hspec htarget =>
      refine ⟨policyEncounter spec, .inr ⟨spec, hspec, rfl⟩, ?_⟩
      simp only [policyEncounter, htarget]
      rfl

/-! ## What the encounters come to -/

/-- The encounters are judged, and what has been compiled is what they come to, in order. -/
def Accounts (es : List Encounter) (c : Compiled) : Prop :=
  (∀ e ∈ es, e.IsJudged) ∧ c = joined (es.map Encounter.compiled)

theorem Accounts.of_single {e : Encounter} (h : e.IsJudged) : Accounts [e] e.compiled := by
  refine ⟨?_, ?_⟩
  · intro e' he
    rw [List.mem_singleton.1 he]
    exact h
  · simp [joined]

/-- The accounts of parts are put together like the parts. -/
theorem Accounts.join {α : Type} {f : α → Except CompileError Compiled} {es : α → List Encounter} {xs : List α}
    {parts : List Compiled} (hparts : xs.mapM f = .ok parts) (h : ∀ x c, f x = .ok c → Accounts (es x) c) :
    Accounts (xs.flatMap es) (joined parts) := by
  have hall : List.Forall₂ (fun x c => Accounts (es x) c) xs parts := (mapM_eq_ok.1 hparts).imp h
  clear hparts
  induction hall with
  | nil => exact ⟨by simp, rfl⟩
  | @cons x c xs parts hx _ ih =>
    obtain ⟨hjudged, rfl⟩ := hx
    obtain ⟨hothers, hrest⟩ := ih
    refine ⟨?_, ?_⟩
    · intro e he
      rw [List.flatMap_cons, List.mem_append] at he
      exact he.elim (hjudged e) (hothers e)
    · have hrules := congrArg Compiled.rules hrest
      have hwarnings := congrArg Compiled.warnings hrest
      simp only [joined] at hrules hwarnings ⊢
      simp only [List.flatMap_cons, List.map_append, List.flatMap_append, hrules, hwarnings]

theorem Accounts.append {es es' : List Encounter} {parts parts' : List Compiled} (h : Accounts es (joined parts))
    (h' : Accounts es' (joined parts')) : Accounts (es ++ es') (joined (parts ++ parts')) := by
  obtain ⟨hjudged, heq⟩ := h
  obtain ⟨hjudged', heq'⟩ := h'
  refine ⟨?_, ?_⟩
  · intro e he
    exact (List.mem_append.1 he).elim (hjudged e) (hjudged' e)
  · simp only [joined, Compiled.mk.injEq] at heq heq' ⊢
    simp only [List.flatMap_append, List.map_append, heq.1, heq.2, heq'.1, heq'.2, and_self]

/-- The rule of an owner with its usable checks is what the owner comes to. -/
theorem accounts_owner {bare : Rule} {specs : List CheckSpec} {c : Compiled}
    (h : (do
      let (checks, warnings) ← usableChecks bare.id specs
      return ⟨if checks.isEmpty then [] else [{ bare with checks }], warnings⟩) = (.ok c : Except _ Compiled)) :
    Accounts [.owner ⟨bare, specs⟩] c := by
  obtain ⟨⟨checks, warnings⟩, hchecks, h⟩ := bind_eq_ok.1 h
  obtain rfl := pure_eq_ok.1 h
  obtain ⟨rfl, rfl, hjudged⟩ := usableChecks_eq_ok hchecks
  have hcompiled : (Encounter.owner ⟨bare, specs⟩).compiled =
      ⟨if (Owner.mk bare specs).checks.isEmpty then [] else [{ bare with checks := (Owner.mk bare specs).checks }],
        (Owner.mk bare specs).warnings⟩ := by
    simp only [Encounter.compiled, Encounter.owner?, Option.bind_some, Owner.rule?, Encounter.warnings]
    cases (Owner.mk bare specs).checks <;> rfl
  rw [← hcompiled]
  exact .of_single (Encounter.isJudged_owner hjudged)

theorem accounts_domainRules {profile : String} {domain : String × AdvisoryDomain} {c : Compiled}
    (h : domainRules profile domain.1 domain.2 = .ok c) : Accounts (domainEncounters profile domain) c := by
  unfold domainRules at h
  unfold domainEncounters ownerOf
  dsimp only at h
  cases htarget : domainTarget ("ato." ++ profile ++ "." ++ domain.1) domain.1 domain.2 with
  | error problem =>
    rw [htarget] at h
    obtain rfl := Except.ok.inj h
    exact .of_single Encounter.isJudged_blocked
  | ok target =>
    rw [htarget] at h
    obtain ⟨parts, hparts, h⟩ := bind_eq_ok.1 h
    obtain rfl := pure_eq_ok.1 h
    dsimp only
    rw [List.map_eq_flatMap]
    refine Accounts.join hparts ?_
    intro entry c hentry
    exact accounts_owner hentry

theorem accounts_policyRule {spec : PolicySpec} {c : Compiled} (h : policyRule spec = .ok c) :
    Accounts [policyEncounter spec] c := by
  unfold policyRule at h
  unfold policyEncounter
  cases htarget : spec.target.toTarget with
  | error e =>
    rw [htarget] at h
    obtain rfl := Except.ok.inj h
    exact .of_single Encounter.isJudged_blocked
  | ok target =>
    rw [htarget] at h
    exact accounts_owner h

/-- A domain has the target that it names, if it names one. Otherwise it has the action that its own name is known to
stand for. -/
def IsTargetOf (name : String) (domain : AdvisoryDomain) (target : Target) : Prop :=
  (∃ spec, domain.target = some spec ∧ spec.toTarget = .ok target) ∨
    domain.target = none ∧ ∃ action, (name, action) ∈ knownDomains ∧ target = .action action

theorem domainTarget_eq_ok_iff {owner name : String} {domain : AdvisoryDomain} {target : Target} :
    domainTarget owner name domain = .ok target ↔ IsTargetOf name domain target := by
  unfold domainTarget IsTargetOf
  cases domain.target with
  | some spec => simp [mapError_eq_ok]
  | none =>
    have hknown : ∀ action, knownDomains.find? (·.1 == name) = some (name, action) ↔ (name, action) ∈ knownDomains := by
      intro action
      refine ⟨List.mem_of_find?_eq_some, ?_⟩
      intro hmem
      -- no name is known twice
      simp only [knownDomains, List.mem_cons, Prod.mk.injEq, List.not_mem_nil, or_false] at hmem
      rcases hmem with ⟨rfl, rfl⟩ | ⟨rfl, rfl⟩ | ⟨rfl, rfl⟩ | ⟨rfl, rfl⟩ | ⟨rfl, rfl⟩ | ⟨rfl, rfl⟩ | ⟨rfl, rfl⟩ |
        ⟨rfl, rfl⟩ | ⟨rfl, rfl⟩ | ⟨rfl, rfl⟩ <;> decide
    simp only [reduceCtorEq, false_and, exists_false, true_and, false_or, ← hknown]
    cases hfind : knownDomains.find? (·.1 == name) with
    | none => simp
    | some found =>
      have hname : found.1 = name := by simpa using List.find?_some hfind
      obtain ⟨first, action⟩ := found
      subst hname
      simp [eq_comm]

/-- All that there is to say of the rules and the warnings of an advisory section under a profile. -/
structure Account (advisory : Advisory) (profile : String) (c : Compiled) : Prop where
  /-- There is one rule for each owner that has a check which can be used, in order. -/
  rules_eq : c.rules = (advisory.owners profile).filterMap Owner.rule?
  /-- The warnings are that of the missing profile and those of what there is on the way, in order. -/
  warnings_eq : c.warnings = advisory.missing profile ++ (advisory.encounters profile).flatMap Encounter.warnings
  /-- The rules do no more than warn. -/
  warns : ∀ rule ∈ c.rules, rule.effect = .warn
  /-- The owners are what the section offers under the profile. -/
  offers : ∀ o, o ∈ advisory.owners profile ↔ advisory.Offers profile o.bare o.specs
  /-- A domain makes offers for the target that it names, or for the one that its name stands for. -/
  targets : ∀ name domain target, domainTarget (ownerOf profile name) name domain = .ok target ↔
    IsTargetOf name domain target
  /-- Each entry of an owner becomes a check of its rule, or it is rejected with a warning. -/
  judged : ∀ o ∈ advisory.owners profile, o.IsJudged ∧ o.checks.length + o.warnings.length = o.specs.length
  /-- An owner has no rule only if there is a warning for each of its entries. -/
  dropped : ∀ o ∈ advisory.owners profile, o.rule? = none ↔ o.warnings.length = o.specs.length

/-- The section is compiled to what the encounters in it come to, after the warning of a missing profile. -/
theorem accounts_rules {advisory : Advisory} {profile : String} {c : Compiled} (h : advisory.rules profile = .ok c) :
    ∃ found, Accounts (advisory.encounters profile) found ∧
      c = ⟨found.rules, advisory.missing profile ++ found.warnings⟩ := by
  rw [rules_eq_bothOf] at h
  obtain ⟨first, hfirst, h⟩ := bind_eq_ok.1 h
  obtain rfl := Except.ok.inj hfirst
  obtain ⟨rest, hrest, h⟩ := bind_eq_ok.1 h
  obtain rfl := pure_eq_ok.1 h
  obtain ⟨domains, hdomains, hrest⟩ := bind_eq_ok.1 hrest
  obtain ⟨policies, hpolicies, hrest⟩ := bind_eq_ok.1 hrest
  obtain rfl := pure_eq_ok.1 hrest
  obtain ⟨ofDomains, hmap, rfl⟩ := map_eq_ok.1 hdomains
  obtain ⟨ofPolicies, hmap', rfl⟩ := map_eq_ok.1 hpolicies
  have haccounts : Accounts ((advisory.domains profile).flatMap (domainEncounters profile)) (joined ofDomains) :=
    Accounts.join hmap fun domain c => accounts_domainRules
  have haccounts' : Accounts (advisory.policies.map policyEncounter) (joined ofPolicies) := by
    rw [List.map_eq_flatMap]
    exact Accounts.join hmap' fun spec c => accounts_policyRule
  refine ⟨_, haccounts.append haccounts', ?_⟩
  simp [joined]

theorem account_rules {advisory : Advisory} {profile : String} {c : Compiled} (h : advisory.rules profile = .ok c) :
    advisory.Account profile c := by
  obtain ⟨found, ⟨hjudged, hfound⟩, hc⟩ := accounts_rules h
  have howners : ∀ o ∈ advisory.owners profile, o.IsJudged := by
    intro o ho
    obtain ⟨e, he, hsome⟩ := List.mem_filterMap.1 ho
    exact hjudged e he o hsome
  refine ⟨?_, ?_, ?_, ?_, ?_, ?_, ?_⟩
  · simp only [hc, hfound, joined, List.flatMap_map, Encounter.compiled]
    rw [owners, List.filterMap_filterMap, List.filterMap_eq_flatMap_toList]
  · simp only [hc, hfound, joined, List.flatMap_map, Encounter.compiled]
  · intro rule hr
    exact (isAdvice_of_rules h hr).warns
  · exact fun o => mem_owners_iff
  · exact fun name domain target => domainTarget_eq_ok_iff
  · intro o ho
    exact ⟨howners o ho, Owner.length_checks_add_warnings (howners o ho)⟩
  · intro o ho
    exact Owner.rule?_eq_none_iff (howners o ho)

end Advisory

namespace Document

variable {doc : Document} {profile : String} {c : Compiled}

/-- A document is compiled to the rules that it has without its advisory section, followed by the rules of that
section. The account of the section says which rules these are and what the warnings are; without such a section there
are none. -/
theorem advice_accounted (h : doc.compile profile = .ok c) :
    ∃ base advice, c.rules = base ++ advice ∧ { doc with advisory := none }.compile profile = .ok ⟨base, []⟩ ∧
      (doc.advisory = none → advice = [] ∧ c.warnings = []) ∧
      ∀ advisory, doc.advisory = some advisory →
        advisory.Account (doc.activeProfile profile) ⟨advice, c.warnings⟩ := by
  obtain ⟨ofSections, ofPolicies, ofAdvisory, hs, hp, ha, rfl⟩ := compile_eq_ok.1 h
  refine ⟨ofSections.flatten ++ ofPolicies, ofAdvisory.rules, rfl,
    compile_eq_ok.2 ⟨ofSections, ofPolicies, ⟨[], []⟩, hs, hp, rfl, by simp⟩, ?_, ?_⟩
  · intro hnone
    rw [hnone] at ha
    simp [ha]
  · intro advisory hsome
    rw [hsome] at ha
    exact Advisory.account_rules ha

/-! ### A section with advice that can be used and advice that cannot -/

/-- A document with a demand, and with an advisory section. The first domain is known by name, and it has a rule with
an entry that can be used between two that cannot. The second domain has no target, the third has one and a rule without
entries. Then come a policy with a bad target, one with nothing that can be used, and one with two checks. -/
def mixedAdvice : Value := .record
  [("azure", .record [("create_subnet", .record [("require_nsg", .bool true)])]),
   ("ato", .record
    [("profiles", .record [("default", .record
      [("webapp", .record [("rules", .record [("R", .record [("checks", .list
        [.record [("type", .str "between"), ("path", .str "a")],
         .record [("type", .str "requiredTrue"), ("path", .str "httpsOnly")],
         .record [("type", .str "regex"), ("path", .str "name"), ("pattern", .str "(")]])])])]),
       ("elsewhere", .record [("rules", .record [("S", .record [])])]),
       ("named", .record [("target", .record [("prefix", .str "github")]), ("rules", .record [("T", .record [])])])])]),
     ("policies", .list
       [.record [("id", .str "p"), ("target", .record [])],
        .record [("id", .str "q"), ("target", .record [("prefix", .str "azure")]), ("checks", .list
          [.record [("type", .str "equals"), ("path", .str "sku")]])],
        .record [("id", .str "r"), ("target", .record [("prefix", .str "azure")]), ("checks", .list
          [.record [("type", .str "requiredPresent"), ("path", .str "owner")],
           .record [("type", .str "noSpaces"), ("path", .str "name")]])]])])]

/-- Two rules come of the section, and five warnings. -/
theorem mixedAdvice_accounted :
    ∃ v c base advice advisory, Document.read mixedAdvice = .ok v ∧ (ofValue v).compile "" = .ok c ∧
      c.rules = base ++ advice ∧ (ofValue v).advisory = some advisory ∧
      c.rules.map (fun rule => (rule.id, rule.checks.length)) =
        [("azure.create_subnet.nsg", 1), ("ato.default.webapp.R", 1), ("r", 2)] ∧
      c.warnings.length = 5 ∧ advisory.Account "default" ⟨advice, c.warnings⟩ := by
  have hcompiled : ((Document.read mixedAdvice).toOption.bind fun v => ((ofValue v).compile "").toOption.map fun c =>
      (c.rules.map fun rule => (rule.id, rule.checks.length), c.warnings.length, (ofValue v).activeProfile "",
        (ofValue v).advisory.isSome)) =
        some ([("azure.create_subnet.nsg", 1), ("ato.default.webapp.R", 1), ("r", 2)], 5, "default", true) := by
    decide +kernel
  simp only [Option.bind_eq_some_iff, Option.map_eq_some_iff, toOption_eq_some, Prod.mk.injEq] at hcompiled
  obtain ⟨v, hv, c, hc, hrules, hwarnings, hactive, hsome⟩ := hcompiled
  obtain ⟨advisory, hadvisory⟩ := Option.isSome_iff_exists.1 hsome
  obtain ⟨base, advice, happend, -, -, haccount⟩ := advice_accounted hc
  have haccount := haccount advisory hadvisory
  rw [hactive] at haccount
  exact ⟨v, c, base, advice, advisory, hv, hc, happend, hadvisory, hrules, hwarnings, haccount⟩

end Document
end PolicyGate
