import PolicyGate.Document.Reading
import PolicyGate.Settings.Assignments
import PolicyGate.Source.Path
import PolicyGate.Text.Split

/-!
# Settings

The settings of a gate come from three sources: values given directly, variables of the environment,
and a file of assignments. A value given directly wins over a variable, a variable over the file, and
what is given nowhere has a default. Variables carry the name of the setting behind `GOVERNANCE_`, in
any letter case.
-/

namespace PolicyGate

/-- The settings of a gate and of the rules behind it. -/
structure Settings where
  /-- The folder of the rule documents. -/
  rulesDir : String := "governance"
  /-- The advisory profile, if not the document's own. -/
  profile : String := ""
  /-- The namespaces whose actions change state, with commas between them. -/
  stateChanging : String := "azure,github,teams"
  /-- The actions that need no consent, with commas between them. -/
  safe : String := ""
  /-- How many seconds a person has for a reply; nothing for all the time there is. -/
  timeout : Option Binary64 := none
  /-- The greatest number of prompts for one call. -/
  maxPrompts : Int := 3
deriving DecidableEq, Repr

/-- What settings are made from. -/
structure Settings.Sources where
  given : List (Value × Value) := []
  environment : List (String × String) := []
  /-- The characters of the file of assignments; none if there is no such file. -/
  file : List Char := []

namespace Settings

/-- What stands in front of the name of a setting in the name of a variable. -/
def variableLead : String := "governance_"

/-- The value of a setting among variables: the last one that bears its name. -/
def fromVariables? (name : String) (vars : List Assignments.Assignment) : Option Value :=
  ((vars.reverse.find? fun v => v.1.toLower == variableLead ++ name).bind (·.2)).map .str

/-- The value of a setting from the first source that has one. -/
def Sources.value? (s : Sources) (name : String) : Option Value :=
  (Value.field? s.given name).orElse fun _ =>
    (fromVariables? name (s.environment.map fun (n, v) => (n, some v))).orElse fun _ =>
      fromVariables? name (Assignments.read s.environment s.file)

/-- A setting as a value of its kind. -/
def Sources.setting {α : Type} (s : Sources) (name : String) (coerce : Value → Except String α)
    (default : α) : Reading α :=
  match s.value? name with
  | none => .value default
  | some v => (Reading.ofCoercion (coerce v)).within name

/-- A number or null. -/
def optionalNumber : Value → Except String (Option Binary64)
  | .null => .ok none
  | v => v.asNumber.map some

/-- The settings that the sources give; all complaints if any value is of the wrong kind. -/
def ofSources (s : Sources) : Reading Settings :=
  let d : Settings := {}
  let texts := (s.setting "rules_dir" Value.asText d.rulesDir).both <|
    (s.setting "ato_profile" Value.asText d.profile).both <|
    (s.setting "state_changing_prefixes" Value.asText d.stateChanging).both <|
    s.setting "safe_actions" Value.asText d.safe
  let numbers := (s.setting "consent_timeout_seconds" optionalNumber d.timeout).both <|
    s.setting "max_consent_prompts" Value.asWhole d.maxPrompts
  (texts.both numbers).map fun ((rulesDir, profile, stateChanging, safe), timeout, maxPrompts) =>
    { rulesDir, profile, stateChanging, safe, timeout, maxPrompts }

/-- The items between commas without the blanks around them; empty ones are left out. -/
def items (s : String) : List String :=
  ((Text.splitAt ',' s).map Text.trim).filter (! ·.isEmpty)

/-- The paths that the rules are loaded from. -/
def rulePaths (s : Settings) : List Path := [.ofText s.rulesDir]

/-- The namespaces whose actions change state. -/
def namespaces (s : Settings) : List String := items s.stateChanging

/-- The actions that need no consent. -/
def safeActions (s : Settings) : List String := (items s.safe).eraseDups

end Settings
end PolicyGate
