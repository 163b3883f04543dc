import PolicyGate.Proofs.Policy.Advice
import PolicyGate.Proofs.Policy.Failure

/-!
# What is tolerated in advice

A document that compiles without its advisory section compiles with it, too, whatever is wrong there: the rules
are those it had, followed by advice, and there is a warning for every problem. The one thing that is not
tolerated is an odd pattern, which is refused without being malformed (`Document.advice_tolerated`).

The advisory section is compiled entry by entry. What is shown of every part of it is that it comes to what the
part grants and warns of what is wrong with it, or fails because of an odd pattern in it (`ComesTo`); this is
kept when parts are put together (`comesTo_joined`).
-/

namespace PolicyGate

open Attempt

/-! ## Entries that ask for a check -/

namespace CheckSpec

variable {spec : CheckSpec} {text : String} {fault : Regex.Fault}

/-- The check that an entry asks for, if the entry can be used. -/
def check? (spec : CheckSpec) : Option Check := spec.toCheck.toOption

/-- The entry asks for an odd pattern. -/
structure IsOdd (spec : CheckSpec) (text : String) (fault : Regex.Fault) : Prop where
  matching : spec.type = CheckKind.matching.name
  placed : spec.path ≠ ""
  asked : spec.pattern = some text
  odd : IsOddPattern text fault

theorem ofName?_eq_some_iff {name : String} {kind : CheckKind} :
    CheckKind.ofName? name = some kind ↔ name = kind.name := by
  constructor
  · intro h
    have hname := List.find?_some h
    exact (eq_of_beq hname).symm
  · intro h
    rw [h]
    exact CheckKind.ofName?_name kind

theorem acceptPattern_eq_pattern {cause : Regex.Fault → Unusable} {shown : String} :
    acceptPattern text cause = .error (.pattern shown fault) ↔ shown = text ∧ IsOddPattern text fault := by
  unfold acceptPattern IsOddPattern
  cases Regex.Pattern.compile text false with
  | ok p => simp
  | error found =>
    cases hm : found.isMalformed with
    | true =>
      simp only [hm, ↓reduceIte, Except.error.injEq, reduceCtorEq, false_iff, not_and, Bool.not_eq_false]
      intro _ heq
      rw [← heq, hm]
    | false =>
      simp only [hm, Bool.false_eq_true, ↓reduceIte, Except.error.injEq, BuildError.pattern.injEq]
      constructor
      · rintro ⟨rfl, rfl⟩
        exact ⟨rfl, rfl, hm⟩
      · rintro ⟨rfl, rfl, -⟩
        exact ⟨rfl, rfl⟩

/-- An entry fails otherwise than by being unusable exactly when it asks for an odd pattern. -/
theorem toCheck_eq_pattern_iff : spec.toCheck = .error (.pattern text fault) ↔ spec.IsOdd text fault := by
  constructor
  · intro h
    have hasks := spec.asks
    rw [h] at hasks
    cases hasks with
    | refused hkind hplaced hpattern hrefused =>
      obtain ⟨rfl, hodd⟩ := acceptPattern_eq_pattern.1 hrefused
      exact ⟨ofName?_eq_some_iff.1 hkind, hplaced, hpattern, hodd⟩
  · intro h
    have hkind := ofName?_eq_some_iff.2 h.matching
    have hpath : spec.path.isEmpty = false := by
      simpa [String.isEmpty_iff] using h.placed
    have hrefused : validPattern text = .error (.pattern text fault) :=
      acceptPattern_eq_pattern.2 ⟨rfl, h.odd⟩
    unfold toCheck
    rw [hkind]
    simp only [hpath, Bool.false_eq_true, ↓reduceIte, h.asked, hrefused]
    rfl

theorem not_isOdd (h : spec.toCheck ≠ .error (.pattern text fault)) : ¬ spec.IsOdd text fault := by
  intro hodd
  exact h (toCheck_eq_pattern_iff.2 hodd)

end CheckSpec

/-! ## What a part of the advisory section comes to -/

namespace Advisory

/-- What there is to a part of the advisory section: the odd patterns in it, the rules it grants, and the
problems it has. -/
structure Part where
  odd : String → Regex.Fault → Prop
  grants : Rule → Prop
  problem : String → Prop

/-- A part with a problem that leaves nothing of it. -/
def Part.blocked (problem : String) : Part := ⟨fun _ _ => False, fun _ => False, fun warning => warning = problem⟩

/-- Two parts as one. -/
def Part.or (part part' : Part) : Part where
  odd text fault := part.odd text fault ∨ part'.odd text fault
  grants rule := part.grants rule ∨ part'.grants rule
  problem warning := part.problem warning ∨ part'.problem warning

/-- Several parts as one. -/
def Part.all {α : Type} (xs : List α) (part : α → Part) : Part where
  odd text fault := ∃ x ∈ xs, (part x).odd text fault
  grants rule := ∃ x ∈ xs, (part x).grants rule
  problem warning := ∃ x ∈ xs, (part x).problem warning

/-- Compiling a part comes to the rules it grants, with a warning for each problem, or it fails because of an
odd pattern in it. -/
inductive ComesTo (part : Part) : Except CompileError Compiled → Prop where
  | rules {c : Compiled} (hodd : ∀ text fault, ¬ part.odd text fault)
      (hrules : ∀ rule, rule ∈ c.rules ↔ part.grants rule)
      (hwarnings : ∀ warning, warning ∈ c.warnings ↔ part.problem warning) : ComesTo part (.ok c)
  | stuck {text : String} {fault : Regex.Fault} (hodd : part.odd text fault) :
      ComesTo part (.error (.pattern text fault))

theorem comesTo_blocked {problem : String} : ComesTo (.blocked problem) (.ok ⟨[], [problem]⟩) :=
  .rules (by simp [Part.blocked]) (by simp [Part.blocked]) (by simp [Part.blocked])

theorem ComesTo.congr {part part' : Part} {x : Except CompileError Compiled} (h : ComesTo part x)
    (hodd : ∀ text fault, part.odd text fault ↔ part'.odd text fault)
    (hgrants : ∀ rule, part.grants rule ↔ part'.grants rule)
    (hproblem : ∀ warning, part.problem warning ↔ part'.problem warning) : ComesTo part' x := by
  cases h with
  | rules hnot hrules hwarnings =>
    refine .rules ?_ ?_ ?_
    · intro text fault hfound
      exact hnot text fault ((hodd text fault).2 hfound)
    · exact fun rule => (hrules rule).trans (hgrants rule)
    · exact fun warning => (hwarnings warning).trans (hproblem warning)
  | stuck hfound => exact .stuck ((hodd _ _).1 hfound)

/-- What two attempts come to, one after the other. -/
def bothOf (x y : Except CompileError Compiled) : Except CompileError Compiled := do
  let first ← x
  let second ← y
  return joined [first, second]

theorem ComesTo.both {part part' : Part} {x y : Except CompileError Compiled} (hx : ComesTo part x)
    (hy : ComesTo part' y) : ComesTo (part.or part') (bothOf x y) := by
  cases hx with
  | stuck hodd => exact .stuck (.inl hodd)
  | @rules first hodd hrules hwarnings =>
    cases hy with
    | stuck hodd => exact .stuck (.inr hodd)
    | @rules second hodd' hrules' hwarnings' =>
      refine .rules ?_ ?_ ?_
      · intro text fault hfound
        rcases hfound with hfound | hfound
        · exact hodd text fault hfound
        · exact hodd' text fault hfound
      · intro rule
        have hsplit : rule ∈ (joined [first, second]).rules ↔ rule ∈ first.rules ∨ rule ∈ second.rules := by
          simp [joined]
        exact hsplit.trans (or_congr (hrules rule) (hrules' rule))
      · intro warning
        have hsplit : warning ∈ (joined [first, second]).warnings ↔
            warning ∈ first.warnings ∨ warning ∈ second.warnings := by
          simp [joined]
        exact hsplit.trans (or_congr (hwarnings warning) (hwarnings' warning))

/-- Parts that are compiled one after the other come to what they come to together. -/
theorem comesTo_joined {α : Type} {f : α → Except CompileError Compiled} {part : α → Part} {xs : List α}
    (h : ∀ x ∈ xs, ComesTo (part x) (f x)) :
    ComesTo (Part.all xs part) ((xs.mapM f).map joined) := by
  induction xs with
  | nil => exact .rules (by simp [Part.all]) (by simp [Part.all, joined]) (by simp [Part.all, joined])
  | cons x rest ih =>
    have hrest : ComesTo (Part.all rest part) ((rest.mapM f).map joined) :=
      ih fun y hy => h y (List.mem_cons_of_mem x hy)
    have hsplit : ((x :: rest).mapM f).map joined = bothOf (f x) ((rest.mapM f).map joined) := by
      rw [List.mapM_cons]
      cases f x with
      | error e => rfl
      | ok first => cases rest.mapM f <;> simp [bothOf, joined, bind, Except.bind, pure, Except.pure, Except.map]
    rw [hsplit]
    refine ((h x List.mem_cons_self).both hrest).congr ?_ ?_ ?_
    · simp [Part.or, Part.all]
    · simp [Part.or, Part.all]
    · simp [Part.or, Part.all]

/-! ### One rule -/

/-- The rule with those of the checks that can be used, unless there is none. -/
def IsRuleOf (bare : Rule) (specs : List CheckSpec) (rule : Rule) : Prop :=
  specs.filterMap CheckSpec.check? ≠ [] ∧ rule = { bare with checks := specs.filterMap CheckSpec.check? }

/-- A rule that has no checks yet, and the entries that ask for them. -/
def ruleOf (bare : Rule) (specs : List CheckSpec) : Part where
  odd text fault := ∃ spec ∈ specs, spec.IsOdd text fault
  grants := IsRuleOf bare specs
  problem warning := ∃ spec ∈ specs, ∃ cause, spec.toCheck = .error (.unusable cause) ∧
    warning = bare.id ++ ": " ++ cause.message

theorem usableChecks_cases (owner : String) (specs : List CheckSpec) :
    (∃ warnings, usableChecks owner specs = .ok (specs.filterMap CheckSpec.check?, warnings) ∧
        (∀ spec ∈ specs, ∀ text fault, ¬ spec.IsOdd text fault) ∧
        ∀ warning, warning ∈ warnings ↔ ∃ spec ∈ specs, ∃ cause,
          spec.toCheck = .error (.unusable cause) ∧ warning = owner ++ ": " ++ cause.message) ∨
      ∃ spec ∈ specs, ∃ text fault, spec.IsOdd text fault ∧
        usableChecks owner specs = .error (.pattern text fault) := by
  induction specs with
  | nil => exact .inl ⟨[], rfl, by simp, by simp⟩
  | cons spec rest ih =>
    -- an entry is odd, refused with a warning, or used; only the first stops the rest
    rw [usableChecks]
    cases hspec : spec.toCheck with
    | error e =>
      cases e with
      | pattern text fault =>
        exact .inr ⟨spec, List.mem_cons_self, text, fault, CheckSpec.toCheck_eq_pattern_iff.1 hspec, rfl⟩
      | unusable cause =>
        have hnone : spec.check? = none := by simp [CheckSpec.check?, hspec, Except.toOption]
        rcases ih with ⟨warnings, hok, hodd, hwarnings⟩ | ⟨spec', hmem, text, fault, hodd, herror⟩
        · left
          refine ⟨(owner ++ ": " ++ cause.message) :: warnings, ?_, ?_, ?_⟩
          · simp only [hok, Except.map, List.filterMap_cons_none hnone]
          · exact List.forall_mem_cons.2 ⟨fun text fault => CheckSpec.not_isOdd (by simp [hspec]), hodd⟩
          · intro warning
            rw [List.mem_cons, hwarnings, List.exists_mem_cons_iff]
            simp [hspec]
        · right
          exact ⟨spec', List.mem_cons_of_mem spec hmem, text, fault, hodd, by simp only [herror, Except.map]⟩
    | ok check =>
      have hsome : spec.check? = some check := by simp [CheckSpec.check?, hspec, Except.toOption]
      rcases ih with ⟨warnings, hok, hodd, hwarnings⟩ | ⟨spec', hmem, text, fault, hodd, herror⟩
      · left
        refine ⟨warnings, ?_, ?_, ?_⟩
        · simp only [hok, Except.map, List.filterMap_cons_some hsome]
        · exact List.forall_mem_cons.2 ⟨fun text fault => CheckSpec.not_isOdd (by simp [hspec]), hodd⟩
        · intro warning
          rw [hwarnings, List.exists_mem_cons_iff]
          simp [hspec]
      · right
        exact ⟨spec', List.mem_cons_of_mem spec hmem, text, fault, hodd, by simp only [herror, Except.map]⟩

/-- The rule of an entry, still without checks. -/
def bareRule (owner : String) (target : Target) (code : String) (entry : AdvisoryRule) : Rule :=
  { id := owner ++ "." ++ code, description := titleOf code entry, target, effect := .warn,
    suggestions := (given entry.suggest).toList.map fun text =>
      { text := .str text, title := some (titleOf code entry), fix := entry.fix : Suggestion }
    controls := entry.controls }

/-- What comes of a rule when the checks of its owner are put into it, if there are any. -/
theorem comesTo_ruleOf (bare : Rule) (specs : List CheckSpec) :
    ComesTo (ruleOf bare specs) (do
      let (checks, warnings) ← usableChecks bare.id specs
      return ⟨if checks.isEmpty then [] else [{ bare with checks }], warnings⟩) := by
  rcases usableChecks_cases bare.id specs with ⟨warnings, hok, hodd, hwarnings⟩ | hstuck
  · rw [hok]
    refine .rules ?_ ?_ hwarnings
    · rintro text fault ⟨spec, hspec, hfound⟩
      exact hodd spec hspec text fault hfound
    · intro rule
      show rule ∈ (if _ then _ else _) ↔ IsRuleOf bare specs rule
      rw [IsRuleOf]
      cases specs.filterMap CheckSpec.check? with
      | nil => simp
      | cons check rest => simp
  · obtain ⟨spec, hspec, text, fault, hodd, herror⟩ := hstuck
    rw [herror]
    exact .stuck ⟨spec, hspec, hodd⟩

/-! ### The whole section -/

/-- The domains of a profile. -/
def domains (advisory : Advisory) (profile : String) : List (String × AdvisoryDomain) :=
  ((advisory.profiles.find? (·.1 == profile)).map (·.2)).getD []

/-- What the rules of a domain are named for. -/
def ownerOf (profile name : String) : String := "ato." ++ profile ++ "." ++ name

/-- The rules that the section offers under a profile, still without checks, with the entries that ask for them:
a rule for each entry of a domain, and one for each policy, as far as they have targets. -/
inductive Offers (advisory : Advisory) (profile : String) : Rule → List CheckSpec → Prop where
  | entry {name code : String} {domain : AdvisoryDomain} {target : Target} {entry : AdvisoryRule}
      (hdomain : (name, domain) ∈ advisory.domains profile)
      (htarget : domainTarget (ownerOf profile name) name domain = .ok target)
      (hentry : (code, entry) ∈ domain.rules) :
      Offers advisory profile (bareRule (ownerOf profile name) target code entry) entry.checks
  | policy {spec : PolicySpec} {target : Target} (hspec : spec ∈ advisory.policies)
      (htarget : spec.target.toTarget = .ok target) :
      Offers advisory profile (spec.rule target .warn []) spec.checks

/-- What can be wrong with the section under a profile, in words. -/
inductive Problem (advisory : Advisory) (profile : String) : String → Prop where
  /-- There are profiles, but not this one. -/
  | profile (hsome : advisory.profiles ≠ []) (hmissing : ∀ p ∈ advisory.profiles, p.1 ≠ profile) :
      Problem advisory profile ("ato profile '" ++ profile ++ "' not found")
  /-- A domain has no target, or a bad one. -/
  | domain {name warning : String} {domain : AdvisoryDomain}
      (hdomain : (name, domain) ∈ advisory.domains profile)
      (htarget : domainTarget (ownerOf profile name) name domain = .error warning) :
      Problem advisory profile warning
  /-- A policy has a bad target. -/
  | policy {spec : PolicySpec} {e : TargetError} (hspec : spec ∈ advisory.policies)
      (htarget : spec.target.toTarget = .error e) :
      Problem advisory profile (spec.id ++ ": " ++ e.message)
  /-- An entry for a check cannot be used. -/
  | check {bare : Rule} {specs : List CheckSpec} {spec : CheckSpec} {cause : Unusable}
      (hoffer : Offers advisory profile bare specs) (hspec : spec ∈ specs)
      (hcause : spec.toCheck = .error (.unusable cause)) :
      Problem advisory profile (bare.id ++ ": " ++ cause.message)

/-- An entry that the section has under a profile asks for an odd pattern. -/
def HasOdd (advisory : Advisory) (profile text : String) (fault : Regex.Fault) : Prop :=
  ∃ bare specs, advisory.Offers profile bare specs ∧ ∃ spec ∈ specs, spec.IsOdd text fault

/-- The section as one part. -/
def whole (advisory : Advisory) (profile : String) : Part where
  odd := advisory.HasOdd profile
  grants rule := ∃ bare specs, advisory.Offers profile bare specs ∧ IsRuleOf bare specs rule
  problem := advisory.Problem profile

/-- A domain as one part: that of its entries if it has a target, else a problem. -/
def ofDomain (profile : String) (domain : String × AdvisoryDomain) : Part :=
  match domainTarget (ownerOf profile domain.1) domain.1 domain.2 with
  | .error problem => .blocked problem
  | .ok target => Part.all domain.2.rules fun entry =>
    ruleOf (bareRule (ownerOf profile domain.1) target entry.1 entry.2) entry.2.checks

theorem comesTo_domainRules (profile : String) (domain : String × AdvisoryDomain) :
    ComesTo (ofDomain profile domain) (domainRules profile domain.1 domain.2) := by
  unfold domainRules ofDomain ownerOf
  dsimp only
  cases domainTarget ("ato." ++ profile ++ "." ++ domain.1) domain.1 domain.2 with
  | error warning => exact comesTo_blocked
  | ok target =>
    dsimp only
    rw [bind_pure_eq_map]
    exact comesTo_joined fun entry _ => comesTo_ruleOf _ _

/-- A policy as one part: its rule if it has a target, else a problem. -/
def ofPolicy (spec : PolicySpec) : Part :=
  match spec.target.toTarget with
  | .error e => .blocked (spec.id ++ ": " ++ e.message)
  | .ok target => ruleOf (spec.rule target .warn []) spec.checks

theorem comesTo_policyRule (spec : PolicySpec) : ComesTo (ofPolicy spec) (policyRule spec) := by
  unfold policyRule ofPolicy
  cases spec.target.toTarget with
  | error e => exact comesTo_blocked
  | ok target => exact comesTo_ruleOf (spec.rule target .warn []) spec.checks

/-- Whatever there is to the domains and the policies is there because of something the section offers, or because
something has no target. `Q` is a thing that parts can have. -/
theorem exists_part_iff {advisory : Advisory} {profile : String} {Q : Part → Prop}
    (hall : ∀ {α : Type} (xs : List α) (part : α → Part), Q (Part.all xs part) ↔ ∃ x ∈ xs, Q (part x)) :
    ((∃ domain ∈ advisory.domains profile, Q (ofDomain profile domain)) ∨
        ∃ spec ∈ advisory.policies, Q (ofPolicy spec)) ↔
      (∃ bare specs, advisory.Offers profile bare specs ∧ Q (ruleOf bare specs)) ∨
        (∃ name domain problem, (name, domain) ∈ advisory.domains profile ∧
          domainTarget (ownerOf profile name) name domain = .error problem ∧ Q (Part.blocked problem)) ∨
        ∃ spec ∈ advisory.policies, ∃ e, spec.target.toTarget = .error e ∧
          Q (Part.blocked (spec.id ++ ": " ++ e.message)) := by
  constructor
  · rintro (⟨⟨name, domain⟩, hdomain, hQ⟩ | ⟨spec, hspec, hQ⟩)
    · unfold ofDomain at hQ
      -- a domain without a target is one warning; with a target it offers one rule for each entry
      cases htarget : domainTarget (ownerOf profile name) name domain with
      | error problem =>
        simp only [htarget] at hQ
        exact .inr (.inl ⟨name, domain, problem, hdomain, htarget, hQ⟩)
      | ok target =>
        simp only [htarget] at hQ
        obtain ⟨⟨code, entry⟩, hentry, hQ⟩ := (hall _ _).1 hQ
        exact .inl ⟨_, _, .entry hdomain htarget hentry, hQ⟩
    · unfold ofPolicy at hQ
      cases htarget : spec.target.toTarget with
      | error e =>
        simp only [htarget] at hQ
        exact .inr (.inr ⟨spec, hspec, e, htarget, hQ⟩)
      | ok target =>
        simp only [htarget] at hQ
        exact .inl ⟨_, _, .policy hspec htarget, hQ⟩
  · rintro (⟨bare, specs, hoffer, hQ⟩ | ⟨name, domain, problem, hdomain, htarget, hQ⟩ |
      ⟨spec, hspec, e, htarget, hQ⟩)
    · cases hoffer with
      | @entry name code domain target entry hdomain htarget hentry =>
        refine .inl ⟨(name, domain), hdomain, ?_⟩
        simp only [ofDomain, htarget]
        exact (hall _ _).2 ⟨(code, entry), hentry, hQ⟩
      | @policy spec target hspec htarget =>
        refine .inr ⟨spec, hspec, ?_⟩
        simpa only [ofPolicy, htarget] using hQ
    · refine .inl ⟨(name, domain), hdomain, ?_⟩
      simpa only [ofDomain, htarget] using hQ
    · refine .inr ⟨spec, hspec, ?_⟩
      simpa only [ofPolicy, htarget] using hQ

/-- The section has the problem that there are profiles, but not this one. -/
def missing (advisory : Advisory) (profile : String) : List String :=
  if (advisory.profiles.find? (·.1 == profile)).isNone && !advisory.profiles.isEmpty then
    ["ato profile '" ++ profile ++ "' not found"]
  else []

theorem comesTo_missing (advisory : Advisory) (profile : String) :
    ComesTo ⟨fun _ _ => False, fun _ => False, fun warning => advisory.profiles ≠ [] ∧
        (∀ p ∈ advisory.profiles, p.1 ≠ profile) ∧ warning = "ato profile '" ++ profile ++ "' not found"⟩
      (.ok ⟨[], advisory.missing profile⟩) := by
  refine .rules (by simp) (by simp) ?_
  intro warning
  unfold missing
  by_cases hmissing : ∀ p ∈ advisory.profiles, p.1 ≠ profile
  · have hnone : advisory.profiles.find? (·.1 == profile) = none := by
      simpa using hmissing
    simp only [hnone, Option.isNone_none, Bool.true_and, and_iff_right hmissing]
    cases advisory.profiles <;> simp
  · have hsome : advisory.profiles.find? (·.1 == profile) ≠ none := by
      simpa using hmissing
    have hfound : (advisory.profiles.find? (·.1 == profile)).isNone = false := by
      simpa using hsome
    simp only [hfound, Bool.false_and, Bool.false_eq_true, ↓reduceIte, List.not_mem_nil, hmissing, false_and,
      and_false]

/-- The section is put together of three parts: the missing profile, the domains, and the policies. -/
theorem rules_eq_bothOf (advisory : Advisory) (profile : String) :
    advisory.rules profile = bothOf (.ok ⟨[], advisory.missing profile⟩)
      (bothOf (((advisory.domains profile).mapM fun domain => domainRules profile domain.1 domain.2).map joined)
        ((advisory.policies.mapM policyRule).map joined)) := by
  have hrules : advisory.rules profile = do
      let ofDomains ← (advisory.domains profile).mapM fun domain => domainRules profile domain.1 domain.2
      let ofPolicies ← advisory.policies.mapM policyRule
      return joined (⟨[], advisory.missing profile⟩ :: ofDomains ++ ofPolicies) := by
    simp only [rules, domains, missing, Option.isNone_map]
  rw [hrules]
  cases (advisory.domains profile).mapM fun domain => domainRules profile domain.1 domain.2 with
  | error e => rfl
  | ok ofDomains =>
    cases advisory.policies.mapM policyRule with
    | error e => rfl
    | ok ofPolicies => simp [bothOf, joined, bind, Except.bind, pure, Except.pure, Except.map]

/-- The advisory section comes to the rules it offers that have checks which can be used, with a warning for each
of its problems, or it fails because of an odd pattern. -/
theorem comesTo_rules (advisory : Advisory) (profile : String) :
    ComesTo (whole advisory profile) (advisory.rules profile) := by
  have hdomains := comesTo_joined fun domain (_ : domain ∈ advisory.domains profile) =>
    comesTo_domainRules profile domain
  have hpolicies := comesTo_joined fun spec (_ : spec ∈ advisory.policies) => comesTo_policyRule spec
  rw [rules_eq_bothOf]
  have hall := @exists_part_iff advisory profile
  refine ((comesTo_missing advisory profile).both (hdomains.both hpolicies)).congr ?_ ?_ ?_
  · intro text fault
    have hodd := hall (Q := fun part => part.odd text fault) fun xs part => Iff.rfl
    simp only [Part.blocked, and_false, exists_false, or_false] at hodd
    exact (or_iff_right id).trans hodd
  · intro rule
    have hgrants := hall (Q := fun part => part.grants rule) fun xs part => Iff.rfl
    simp only [Part.blocked, and_false, exists_false, or_false] at hgrants
    exact (or_iff_right id).trans hgrants
  · intro warning
    have hproblem := hall (Q := fun part => part.problem warning) fun xs part => Iff.rfl
    refine (or_congr_right hproblem).trans ?_
    constructor
    · rintro (⟨hsome, hmissing, rfl⟩ | ⟨bare, specs, hoffer, spec, hspec, cause, hcause, rfl⟩ |
        ⟨name, domain, problem, hdomain, htarget, rfl⟩ | ⟨spec, hspec, e, htarget, rfl⟩)
      · exact .profile hsome hmissing
      · exact .check hoffer hspec hcause
      · exact .domain hdomain htarget
      · exact .policy hspec htarget
    · intro h
      cases h with
      | profile hsome hmissing => exact .inl ⟨hsome, hmissing, rfl⟩
      | check hoffer hspec hcause => exact .inr (.inl ⟨_, _, hoffer, _, hspec, _, hcause, rfl⟩)
      | domain hdomain htarget => exact .inr (.inr (.inl ⟨_, _, _, hdomain, htarget, rfl⟩))
      | policy hspec htarget => exact .inr (.inr (.inr ⟨_, hspec, _, htarget, rfl⟩))

end Advisory

/-! ## Documents with and without advice -/

namespace Document

variable {raw v : Value} {profile : String} {base : Compiled}

/-- The advisory section has this under the profile in force. -/
def Advises (doc : Document) (profile : String) (has : Advisory → String → Prop) : Prop :=
  ∃ advisory, doc.advisory = some advisory ∧ has advisory (doc.activeProfile profile)

theorem advises_iff {doc : Document} {has : Advisory → String → Prop} {advisory : Advisory}
    (h : doc.advisory = some advisory) : doc.Advises profile has ↔ has advisory (doc.activeProfile profile) := by
  simp [Advises, h]

/-- What the advisory section adds to a document that compiles without it: rules that warn, one for each rule
offered that has a check which can be used, and a warning for each problem. Only an odd pattern makes the document
fail. -/
theorem advice_tolerated (hread : Document.read raw = .ok v)
    (hbase : compiled (withoutAdvisory raw) profile = .ok base) :
    (∃ advice warnings, compiled raw profile = .ok ⟨base.rules ++ advice, warnings⟩ ∧
        (∀ rule ∈ advice, Advisory.IsAdvice rule) ∧
        (∀ rule, rule ∈ advice ↔ (ofValue v).Advises profile fun advisory active =>
          ∃ bare specs, advisory.Offers active bare specs ∧ Advisory.IsRuleOf bare specs rule) ∧
        (∀ warning, warning ∈ warnings ↔ (ofValue v).Advises profile fun advisory active =>
          advisory.Problem active warning) ∧
        ∀ text fault, ¬ (ofValue v).Advises profile fun advisory active =>
          advisory.HasOdd active text fault) ∨
      ∃ text fault, compiled raw profile = .error (.compile (.pattern text fault)) ∧
        (ofValue v).Advises profile fun advisory active => advisory.HasOdd active text fault := by
  rw [compiled_of_read (read_withoutAdvisory hread), ofValue_withoutAdvisory hread] at hbase
  obtain ⟨ofSections, ofPolicies, ofNothing, hsections, hpolicies, rfl, rfl⟩ :=
    compile_eq_ok.1 (mapError_eq_ok.1 hbase)
  rw [compiled_of_read hread]
  cases hadvisory : (ofValue v).advisory with
  -- without the section nothing is added, and nobody advises anything
  | none =>
    have hnot : ∀ has, ¬ (ofValue v).Advises profile has := by simp [Advises, hadvisory]
    left
    refine ⟨[], [], mapError_eq_ok.2 (compile_eq_ok.2
      ⟨ofSections, ofPolicies, ⟨[], []⟩, hsections, hpolicies, ?_, ?_⟩), ?_, ?_, ?_, ?_⟩
    · rw [hadvisory]
    · simp
    · simp
    · simp [hnot]
    · simp [hnot]
    · simp [hnot]
  | some advisory =>
    have hcomes := Advisory.comesTo_rules advisory ((ofValue v).activeProfile profile)
    simp only [advises_iff hadvisory]
    cases hrules : advisory.rules ((ofValue v).activeProfile profile) with
    | ok ofAdvisory =>
      rw [hrules] at hcomes
      cases hcomes with
      | rules hodd hgrants hwarnings =>
        left
        refine ⟨ofAdvisory.rules, ofAdvisory.warnings, mapError_eq_ok.2 (compile_eq_ok.2
          ⟨ofSections, ofPolicies, ofAdvisory, hsections, hpolicies, ?_, ?_⟩), ?_, hgrants, hwarnings, hodd⟩
        · rw [hadvisory]
          exact hrules
        · simp
        · exact fun rule hr => Advisory.isAdvice_of_rules hrules hr
    | error e =>
      rw [hrules] at hcomes
      cases hcomes with
      | @stuck text fault hodd =>
        right
        refine ⟨text, fault, ?_, hodd⟩
        have hcompile : (ofValue v).compile profile = .error (.pattern text fault) := by
          simp only [compile, hsections, hpolicies, hadvisory, hrules]
          rfl
        rw [hcompile]
        rfl

/-! ### Advice with problems, and advice with an odd pattern -/

/-- A document with one demand, and with advice of which only one entry can be used: the others are of an unknown
kind, have a malformed pattern, no target, or a bad one. -/
def faultyAdvice : Value := .record
  [("azure", .record [("create_subnet", .record [("require_nsg", .bool true)])]),
   ("ato", .record
    [("profiles", .record [("default", .record
      [("webapp", .record [("rules", .record [("R", .record [("checks", .list
        [.record [("type", .str "between"), ("path", .str "a")],
         .record [("type", .str "regex"), ("path", .str "name"), ("pattern", .str "(")],
         .record [("type", .str "requiredTrue"), ("path", .str "httpsOnly")]])])])]),
       ("elsewhere", .record [("rules", .record [])])])]),
     ("policies", .list [.record [("id", .str "p"), ("target", .record [])]])])]

/-- The document compiles: it has the rule of its demand and that of the one entry, and four warnings, each for a
problem. -/
theorem faultyAdvice_tolerated :
    ∃ v base advice warnings, Document.read faultyAdvice = .ok v ∧
      compiled (withoutAdvisory faultyAdvice) "" = .ok base ∧
      compiled faultyAdvice "" = .ok ⟨base.rules ++ advice, warnings⟩ ∧
      (base.rules ++ advice).length = 2 ∧ (∀ rule ∈ advice, Advisory.IsAdvice rule) ∧ warnings.length = 4 ∧
      ∀ warning ∈ warnings, (ofValue v).Advises "" fun advisory active => advisory.Problem active warning := by
  have hread : (Document.read faultyAdvice).toOption.isSome = true := by decide +kernel
  have hbase : (compiled (withoutAdvisory faultyAdvice) "").toOption.isSome = true := by decide +kernel
  have hsizes : ((compiled faultyAdvice "").toOption.map fun c => (c.rules.length, c.warnings.length)) =
      some (2, 4) := by decide +kernel
  obtain ⟨v, hv⟩ := exists_ok_of_isSome hread
  obtain ⟨base, hb⟩ := exists_ok_of_isSome hbase
  rcases advice_tolerated hv hb with ⟨advice, warnings, hc, hadvice, -, hwarnings, -⟩ | ⟨text, fault, he, -⟩
  · rw [hc] at hsizes
    obtain ⟨hrules, hcount⟩ := Prod.mk.inj (Option.some.inj hsizes)
    exact ⟨v, base, advice, warnings, hv, hb, hc, hrules, hadvice, hcount,
      fun warning hw => (hwarnings warning).1 hw⟩
  · rw [he] at hsizes
    cases hsizes

/-- An advisory policy that asks for more repetitions than a pattern can have. -/
def oddAdvice : Value := .record [("ato", .record [("policies", .list [.record
  [("id", .str "a"), ("target", .record [("prefix", .str "azure")]), ("checks", .list [.record
    [("type", .str "regex"), ("path", .str "name"), ("pattern", .str "a\x7b4294967296\x7d")]])]])])]

/-- Without that advice the document compiles, and with it it does not: not every problem of the advisory section
is tolerated. -/
theorem advice_not_always_tolerated :
    ¬ ∀ (raw v : Value) (profile : String) (base : Compiled), Document.read raw = .ok v →
      compiled (withoutAdvisory raw) profile = .ok base → ∃ c, compiled raw profile = .ok c := by
  intro h
  have hread : (Document.read oddAdvice).toOption.isSome = true := by decide +kernel
  have hbase : (compiled (withoutAdvisory oddAdvice) "").toOption.isSome = true := by decide +kernel
  have hnone : (compiled oddAdvice "").toOption.isNone = true := by decide +kernel
  obtain ⟨v, hv⟩ := exists_ok_of_isSome hread
  obtain ⟨base, hb⟩ := exists_ok_of_isSome hbase
  obtain ⟨c, hc⟩ := h _ _ _ _ hv hb
  rw [hc] at hnone
  cases hnone

end Document
end PolicyGate
