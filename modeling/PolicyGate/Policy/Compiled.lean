import PolicyGate.Policy.Intent
import PolicyGate.Policy.Rule

/-!
# From documents to rules

The rules of a document come in a fixed order: those of the provider sections, each section's demands
before its suggestions; the policies written as checks; the advisory rules of the active profile, then
the advisory policies. An entry that cannot become a check makes the whole document unusable, except in
the advisory section, where the entry is left out with a warning.
-/

namespace PolicyGate

/-- Why a document does not compile. -/
inductive CompileError where
  /-- The demand of a section cannot be met. -/
  | intent (action field : String) (cause : Unusable)
  /-- A policy has an entry that cannot be used. -/
  | policy (id : String) (cause : Unusable)
  /-- A pattern could not be read for another reason than being malformed. -/
  | pattern (text : String) (fault : Regex.Fault)
  /-- The suggested tags are no mapping. -/
  | tagsNotMapping
  /-- A whole number in a suggestion is too long to be written. -/
  | tooManyDigits
deriving DecidableEq, Repr

/-- The document is unusable: in words, and as a complaint at a place of it. -/
def CompileError.rejection? : CompileError → Option (String × String)
  | .intent action field cause =>
    let text := action ++ "." ++ field ++ ": " ++ cause.message
    some (text, "$." ++ text)
  | .policy id cause =>
    some ("policy " ++ id ++ ": " ++ cause.message, "$.policies[" ++ id ++ "]: " ++ cause.message)
  | .pattern _ _ | .tagsNotMapping | .tooManyDigits => none

/-- The rules of a document, and what was left out of it. -/
structure Compiled where
  rules : List Rule
  warnings : List String

namespace CheckSpec

/-- The check that an entry asks for. -/
def toCheck (spec : CheckSpec) : Except BuildError Check := do
  let some kind := CheckKind.ofName? spec.type | throw (.unusable (.unknownType spec.type))
  if spec.path.isEmpty then throw (.unusable (.noPath spec.type))
  let test ← match kind with
    | .matching =>
      match spec.pattern with
      | none => throw (.unusable .noPattern)
      | some pattern => do
        validPattern pattern
        pure (Test.matching (some pattern) spec.ignoreCase)
    | .among =>
      match spec.values with
      | none => throw (.unusable .noValues)
      | some values =>
        match spec.normalizer with
        | some name =>
          if (normalizer? name).isNone then throw (.unusable (.unknownNormalizer name))
          else pure (Test.among values spec.ignoreCase (some name))
        | none => pure (Test.among values spec.ignoreCase none)
    | .withKeys =>
      match spec.keys with
      | none => throw (.unusable .noKeys)
      | some keys => pure (Test.withKeys keys)
    | .equalTo =>
      match spec.value with
      | none => throw (.unusable (.noExpected spec.type))
      | some v => pure (Test.equalTo v)
    | .notEqualTo =>
      match spec.value with
      | none => throw (.unusable (.noExpected spec.type))
      | some v => pure (Test.notEqualTo v)
    | .withoutBlanks => pure .withoutBlanks
    | .isTrue => pure .isTrue
    | .present => pure .present
  return { path := spec.path, test, message := spec.message, fallbacks := spec.fallbacks }

end CheckSpec

/-- The target that an entry describes. -/
def TargetSpec.toTarget (spec : TargetSpec) : Except TargetError Target :=
  Target.ofNames spec.tool spec.space

/-- The suggestion that an entry describes. -/
def SuggestSpec.toSuggestion (spec : SuggestSpec) : Suggestion :=
  { text := .str spec.text, title := spec.title, fix := spec.fix }

namespace Section

/-- The full name of the action that a section is for. -/
def action (s : Section) : String := s.provider ++ "." ++ s.kind

/-- The value of a field, unless it is missing or null. -/
def entry? (s : Section) (name : String) : Option Value :=
  match Value.field? s.entries name with
  | none | some .null => none
  | some v => some v

/-- The controls that the section's rules implement. -/
def controls (s : Section) : List String := ((s.entry? "controls").bind Value.texts?).getD []

/-- The rule that one demand of a section asks for, if any. -/
def demand (s : Section) (intent : Intent) : Except CompileError (Option Rule) :=
  match s.entry? intent.field with
  | none => .ok none
  | some v =>
    match intent.check v with
    | .ok none => .ok none
    | .ok (some check) => .ok <| some
      { id := s.action ++ "." ++ intent.suffix, description := intent.description,
        target := .action s.action, effect := intent.effect, checks := [check],
        controls := s.controls }
    | .error (.unusable cause) => .error (.intent s.action intent.field cause)
    | .error (.pattern text fault) => .error (.pattern text fault)

/-- The rule that a suggestion makes; it is triggered by every action. -/
def advice (s : Section) (suffix description : String) (suggestion : Suggestion) : Rule :=
  { id := s.action ++ "." ++ suffix, description, target := .action s.action, effect := .warn,
    suggestions := [suggestion], controls := s.controls }

/-- The text of a value in a suggestion. -/
def adviceText (v : Value) : Except CompileError String :=
  match v.text? with
  | some s => .ok s
  | none => .error .tooManyDigits

/-- The value of a field that counts as something. -/
def truthy? (s : Section) (name : String) : Option Value := (s.entry? name).filter Value.isTruthy

/-- The suggestion of a single value under a key of the fix. -/
def single (s : Section) (field suffix lead title key : String) : Except CompileError (List Rule) :=
  match s.truthy? field with
  | none => .ok []
  | some v => do
    let text ← adviceText v
    return [s.advice suffix (lead ++ text)
      { text := v, title := some title, fix := some (.record [(key, v)]) }]

/-- The suggestion of tags. -/
def tagAdvice (s : Section) : Except CompileError (List Rule) :=
  match s.truthy? "suggest_tags" with
  | none => .ok []
  | some (.map entries) => do
    let parts ← entries.mapM fun (k, v) => do return (← adviceText k) ++ ": " ++ (← adviceText v)
    let text := String.intercalate ", " parts
    return [s.advice "suggestTags" ("Consider tags " ++ text)
      { text := .str text, title := some "Suggested tags", fix := some (.record [("tags", .map entries)]) }]
  | some _ => .error .tagsNotMapping

/-- The rules of a section: its demands in order, then its suggestions. -/
def rules (s : Section) : Except CompileError (List Rule) := do
  let demands ← (Intent.ofSection s).mapM s.demand
  let name ← s.single "suggest_name" "suggestName" "Consider a name like " "Suggested name" "name"
  let region ←
    s.single "suggest_region" "suggestRegion" "Consider region " "Suggested region" "location"
  let tags ← s.tagAdvice
  return demands.filterMap (fun rule => rule) ++ name ++ region ++ tags

end Section

namespace PolicySpec

/-- The rule of a policy with the given target, effect and checks. -/
def rule (spec : PolicySpec) (target : Target) (effect : Effect) (checks : List Check) : Rule :=
  { id := spec.id, description := if spec.description.isEmpty then spec.id else spec.description,
    target, effect, checks, suggestions := (spec.suggest.map SuggestSpec.toSuggestion).toList,
    controls := spec.controls }

/-- The rule of a policy all of whose entries must be usable. -/
def toRule (spec : PolicySpec) : Except CompileError Rule :=
  let result : Except BuildError Rule := do
    let target ← spec.target.toTarget.mapError fun e => .unusable (.target e)
    let checks ← spec.checks.mapM CheckSpec.toCheck
    return spec.rule target spec.effect checks
  result.mapError fun
    | .unusable cause => .policy spec.id cause
    | .pattern text fault => .pattern text fault

end PolicySpec

namespace Advisory

/-- The actions that a domain is for when it does not say so itself. -/
def knownDomains : List (String × String) :=
  [("resourceGroup", "azure.create_resource_group"),
   ("storageAccount", "azure.create_storage_account"),
   ("key_vault", "azure.create_key_vault"),
   ("keyVault", "azure.create_key_vault"),
   ("webapp", "azure.create_web_app"),
   ("appPlan", "azure.create_app_service_plan"),
   ("functionApp", "azure.create_function_app"),
   ("sqlDatabase", "azure.create_sql_database"),
   ("logAnalyticsWorkspace", "azure.create_log_analytics_workspace"),
   ("repository", "github.create_repository")]

/-- The usable checks of an owner, with a warning for each entry that is left out. -/
def usableChecks (owner : String) : List CheckSpec → Except CompileError (List Check × List String)
  | [] => .ok ([], [])
  | spec :: rest =>
    match spec.toCheck with
    | .ok check => (usableChecks owner rest).map fun (checks, warnings) => (check :: checks, warnings)
    | .error (.unusable cause) => (usableChecks owner rest).map fun (checks, warnings) =>
      (checks, (owner ++ ": " ++ cause.message) :: warnings)
    | .error (.pattern text fault) => .error (.pattern text fault)

/-- The target of a domain, or the warning that it has none. -/
def domainTarget (owner name : String) (domain : AdvisoryDomain) : Except String Target :=
  match domain.target with
  | some spec => spec.toTarget.mapError fun e => owner ++ ": " ++ e.message
  | none =>
    match knownDomains.find? (·.1 == name) with
    | some (_, action) => .ok (.action action)
    | none => .error (owner ++ ": no target for domain")

/-- The title of an advisory rule, or its code if it has none. -/
def titleOf (code : String) (entry : AdvisoryRule) : String := (given entry.title).getD code

/-- The rule of an entry of a domain, if any of its checks is usable. -/
def entryRule (owner : String) (target : Target) (code : String) (entry : AdvisoryRule) :
    Except CompileError Compiled := do
  let id := owner ++ "." ++ code
  let (checks, warnings) ← usableChecks id entry.checks
  let suggestions := (given entry.suggest).toList.map fun text =>
    { text := .str text, title := some (titleOf code entry), fix := entry.fix : Suggestion }
  let rule : Rule :=
    { id, description := titleOf code entry, target, effect := .warn, checks, suggestions,
      controls := entry.controls }
  return ⟨if checks.isEmpty then [] else [rule], warnings⟩

/-- Several results as one. -/
def joined (parts : List Compiled) : Compiled :=
  ⟨parts.flatMap (·.rules), parts.flatMap (·.warnings)⟩

/-- The rules of a domain of a profile. -/
def domainRules (profile name : String) (domain : AdvisoryDomain) : Except CompileError Compiled :=
  let owner := "ato." ++ profile ++ "." ++ name
  match domainTarget owner name domain with
  | .error warning => .ok ⟨[], [warning]⟩
  | .ok target => do
    let parts ← domain.rules.mapM fun (code, entry) => entryRule owner target code entry
    return joined parts

/-- The rule of an advisory policy, if any of its checks is usable. -/
def policyRule (spec : PolicySpec) : Except CompileError Compiled :=
  match spec.target.toTarget with
  | .error e => .ok ⟨[], [spec.id ++ ": " ++ e.message]⟩
  | .ok target => do
    let (checks, warnings) ← usableChecks spec.id spec.checks
    return ⟨if checks.isEmpty then [] else [spec.rule target .warn checks], warnings⟩

/-- The rules of the advisory section under a profile. -/
def rules (advisory : Advisory) (profile : String) : Except CompileError Compiled := do
  let domains := (advisory.profiles.find? (·.1 == profile)).map (·.2)
  let missing :=
    if domains.isNone && !advisory.profiles.isEmpty then
      ["ato profile '" ++ profile ++ "' not found"]
    else []
  let ofDomains ← (domains.getD []).mapM fun (name, domain) => domainRules profile name domain
  let ofPolicies ← advisory.policies.mapM policyRule
  return joined (⟨[], missing⟩ :: ofDomains ++ ofPolicies)

end Advisory

namespace Document

/-- The rules of a document, with the advisory profile that `override` names or the document's own. -/
def compile (doc : Document) (override : String) : Except CompileError Compiled := do
  let ofSections ← doc.sections.mapM Section.rules
  let ofPolicies ← doc.policies.mapM PolicySpec.toRule
  let ofAdvisory ← match doc.advisory with
    | none => pure ⟨[], []⟩
    | some advisory => advisory.rules (doc.activeProfile override)
  return ⟨ofSections.flatten ++ ofPolicies ++ ofAdvisory.rules, ofAdvisory.warnings⟩

end Document
end PolicyGate
