import PolicyGate.Document.Drift
import PolicyGate.Document.Merge
import PolicyGate.Document.Reading
import PolicyGate.Policy.Compiled
import PolicyGate.Policy.Decision

/-!
# Rule sets

A rule set is what one document gives: its rules, its aliases for actions, and the warnings on the way.
Building one either succeeds as a whole or says what is wrong with the document.
-/

namespace PolicyGate

/-- What decisions are made with. -/
structure RuleSet where
  rules : List Rule := []
  /-- Other names of actions. -/
  aliases : List (String × String) := []
  warnings : List String := []
  /-- The files the document came from. -/
  sources : List String := []
  /-- Was the set built from documents? -/
  isLoaded : Bool := false

/-- Why a document gives no rule set. -/
inductive DocumentError where
  /-- Two documents cannot be merged. -/
  | conflict (cause : MergeConflict)
  | drift (cause : DriftError)
  /-- The document has not the shape of one. -/
  | shape (complaints : List Complaint)
  | versionTooLarge
  | compile (cause : CompileError)

namespace Document

/-- The document as a value of exactly its shape. -/
def read (raw : Value) : Except DocumentError Value :=
  match Schema.document.read raw with
  | .ok (.value v) => .ok v
  | .ok (.faulty complaints) => .error (.shape complaints)
  | .error _ => .error .versionTooLarge

/-- The warnings of the strict look at a document. -/
def strictWarnings (raw : Value) : Except DriftError (List String) := Schema.document.warnings raw

end Document

namespace RuleSet

/-- The rule set of a document, under the advisory profile that `override` names. -/
def ofDocument (raw : Value) (override : String) : Except DocumentError RuleSet := do
  let drift ← (Document.strictWarnings raw).mapError DocumentError.drift
  let doc := Document.ofValue (← Document.read raw)
  let compiled ← (doc.compile override).mapError DocumentError.compile
  return { rules := compiled.rules, aliases := doc.aliases, warnings := drift ++ compiled.warnings,
           isLoaded := true }

/-- The action that a name stands for. -/
def resolveAction (set : RuleSet) (name : String) : String :=
  ((set.aliases.find? (·.1 == name)).map (·.2)).getD name

/-- What the rule set says about an action, by its own name or another one. -/
def evaluate (set : RuleSet) (action : String) (args : Value) (context : Context) :
    Except RenderError Decision :=
  Decision.ofRules set.rules (set.resolveAction action) args context

end RuleSet
end PolicyGate
