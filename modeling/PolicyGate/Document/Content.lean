import PolicyGate.Document.Schema
import PolicyGate.Value.Basic

/-!
# What a document says

A document that has been read has exactly the shape of `Schema.document`. The types here are its content
in terms of policies; a field that is missing has the value that stands for "not given".
-/

namespace PolicyGate

/-- What a triggered rule does. -/
inductive Effect where
  | deny
  | warn
deriving DecidableEq, Repr

namespace Effect

/-- The word for an effect in documents. -/
def name : Effect → String
  | .deny => "deny"
  | .warn => "warn"

/-- The effect that a word stands for. -/
def ofName? : String → Option Effect
  | "deny" => some .deny
  | "warn" => some .warn
  | _ => none

end Effect

/-- A check as it is written. -/
structure CheckSpec where
  type : String
  path : String
  message : Option String
  pattern : Option String
  ignoreCase : Bool
  values : Option (List Value)
  keys : Option (List String)
  /-- The expected value; null is one, too. -/
  value : Option Value
  fallbacks : List String
  normalizer : Option String

/-- A target as it is written. -/
structure TargetSpec where
  tool : Option String
  space : Option String

/-- A suggestion as it is written. -/
structure SuggestSpec where
  text : String
  title : Option String
  fix : Option Value

/-- A policy written as checks. -/
structure PolicySpec where
  id : String
  description : String
  target : TargetSpec
  effect : Effect
  checks : List CheckSpec
  suggest : Option SuggestSpec
  controls : List String

/-- An advisory rule as it is written. -/
structure AdvisoryRule where
  title : Option String
  controls : List String
  suggest : Option String
  fix : Option Value
  checks : List CheckSpec

/-- The advisory rules of a domain, by code. -/
structure AdvisoryDomain where
  target : Option TargetSpec
  rules : List (String × AdvisoryRule)

/-- The advisory section: profiles by name, each with its domains by name. -/
structure Advisory where
  defaultProfile : Option String
  profiles : List (String × List (String × AdvisoryDomain))
  policies : List PolicySpec

/-- The policy for one kind of action of a provider. -/
structure Section where
  provider : String
  kind : String
  entries : List (Value × Value)

/-- The content of a document. -/
structure Document where
  aliases : List (String × String)
  /-- The names of the providers that have a section, in order. -/
  providers : List String
  /-- The policies of all provider sections, in order. -/
  sections : List Section
  policies : List PolicySpec
  advisory : Option Advisory

namespace Value

/-- The value of a field of a mapping; null if there is none. -/
def field (v : Value) (name : String) : Value := (field? (v.entries?.getD []) name).getD .null

/-- The text, if it is one. -/
def str? : Value → Option String
  | .str s => some s
  | _ => none

/-- The elements, if it is a list. -/
def list? : Value → Option (List Value)
  | .list items => some items
  | _ => none

/-- The texts of a list. -/
def texts? (v : Value) : Option (List String) := v.list?.map (·.filterMap str?)

/-- The mapping, if it is one. -/
def mapping? : Value → Option Value
  | .map entries => some (.map entries)
  | _ => none

/-- Is it the raised flag? -/
def isTrue : Value → Bool
  | .bool b => b
  | _ => false

/-- The entries of a mapping whose keys are texts. -/
def namedEntries (v : Value) : List (String × Value) :=
  (v.entries?.getD []).filterMap fun (k, w) => k.str?.map (·, w)

end Value

/-- The check that a value of its shape writes. -/
def CheckSpec.ofValue (v : Value) : CheckSpec where
  type := (v.field "type").str?.getD ""
  path := (v.field "path").str?.getD ""
  message := (v.field "message").str?
  pattern := (v.field "pattern").str?
  ignoreCase := (v.field "ignore_case").isTrue
  values := (v.field "values").list?
  keys := (v.field "keys").texts?
  value := Value.field? (v.entries?.getD []) "value"
  fallbacks := (v.field "fallback_paths").texts?.getD []
  normalizer := (v.field "normalize").str?

/-- The checks of a list. -/
def CheckSpec.listOfValue (v : Value) : List CheckSpec := (v.list?.getD []).map CheckSpec.ofValue

/-- The target that a value of its shape writes. -/
def TargetSpec.ofValue (v : Value) : TargetSpec where
  tool := (v.field "tool").str?
  space := (v.field "prefix").str?

/-- The suggestion that a text or a value of its shape writes, if there is one. -/
def SuggestSpec.ofValue? : Value → Option SuggestSpec
  | .str s => some ⟨s, none, none⟩
  | .map entries =>
    let v := Value.map entries
    some ⟨(v.field "text").str?.getD "", (v.field "title").str?, (v.field "fix").mapping?⟩
  | _ => none

/-- The policy that a value of its shape writes. -/
def PolicySpec.ofValue (v : Value) : PolicySpec where
  id := (v.field "id").str?.getD ""
  description := (v.field "description").str?.getD ""
  target := TargetSpec.ofValue (v.field "target")
  effect := ((v.field "effect").str?.bind Effect.ofName?).getD .deny
  checks := CheckSpec.listOfValue (v.field "checks")
  suggest := SuggestSpec.ofValue? (v.field "suggest")
  controls := (v.field "controls").texts?.getD []

/-- The policies of a list. -/
def PolicySpec.listOfValue (v : Value) : List PolicySpec := (v.list?.getD []).map PolicySpec.ofValue

/-- The advisory rule that a value of its shape writes. -/
def AdvisoryRule.ofValue (v : Value) : AdvisoryRule where
  title := (v.field "title").str?
  controls := (v.field "controls").texts?.getD []
  suggest := (v.field "suggest").str?
  fix := (v.field "fix").mapping?
  checks := CheckSpec.listOfValue (v.field "checks")

/-- The domain that a value of its shape writes. -/
def AdvisoryDomain.ofValue (v : Value) : AdvisoryDomain where
  target := (v.field "target").mapping?.map TargetSpec.ofValue
  rules := (v.field "rules").namedEntries.map fun (code, rule) => (code, AdvisoryRule.ofValue rule)

/-- The advisory section that a value of its shape writes. -/
def Advisory.ofValue (v : Value) : Advisory where
  defaultProfile := (v.field "default_profile").str?
  profiles := (v.field "profiles").namedEntries.map fun (profile, domains) =>
    (profile, domains.namedEntries.map fun (name, domain) => (name, AdvisoryDomain.ofValue domain))
  policies := PolicySpec.listOfValue (v.field "policies")

/-- The policies of a provider's section, in the order of its kinds of action. -/
def Section.listOfValue (provider : String) (kinds : List String) (v : Value) : List Section :=
  kinds.filterMap fun kind =>
    (v.field kind).entries?.map fun entries => { provider, kind, entries }

namespace Document

/-- The content of a value of a document's shape. -/
def ofValue (v : Value) : Document where
  aliases := (v.field "aliases").namedEntries.filterMap fun (name, action) => action.str?.map (name, ·)
  providers := (Schema.providers.map (·.1)).filter fun name => (v.field name).mapping?.isSome
  sections := Schema.providers.flatMap fun (name, _, actions) =>
    Section.listOfValue name (actions.map (·.1)) (v.field name)
  policies := PolicySpec.listOfValue (v.field "policies")
  advisory := (v.field "ato").mapping?.map Advisory.ofValue

/-- The advisory rule with a code in a domain of a profile, as it stands in a value of a document's
shape. -/
def advisoryEntry? (v : Value) (profile domain code : String) : Option Value :=
  let domains := ((v.field "ato").field "profiles").field profile
  Value.field? (((domains.field domain).field "rules").entries?.getD []) code

/-- The advisory profile in force: a given one, else the document's, else the one named default. -/
def activeProfile (doc : Document) (override : String) : String :=
  if !override.isEmpty then override
  else match doc.advisory.bind (·.defaultProfile) with
    | some name => if name.isEmpty then "default" else name
    | none => "default"

end Document
end PolicyGate
