import PolicyGate.Document.Content
import PolicyGate.Policy.Check
import PolicyGate.Policy.Target
import PolicyGate.Policy.Template

/-!
# Rules

A rule applies to the actions of its target. One with checks is triggered by every check that finds
something wrong; one without checks is triggered by every action, and its description is the reason.
-/

namespace PolicyGate

/-- What to do about a triggered rule. The text is a template, and so is every text in the fix. -/
structure Suggestion where
  text : Value
  title : Option String := none
  fix : Option Value := none

namespace Suggestion

/-- The suggestion with its templates filled. Only a text is a template. -/
def rendered (context : Context) (s : Suggestion) : Except RenderError Suggestion := do
  let text ← match s.text with
    | .str template => Template.render context template
    | _ => throw .notText
  let fix ← match s.fix with
    | some fix => (Template.renderValue context fix).map some
    | none => pure none
  return { s with text := .str text, fix }

/-- The written form of a suggestion. -/
def toValue (s : Suggestion) : Value :=
  .record <| [("text", s.text)]
    ++ (match given s.title with
      | some title => [("title", .str title)]
      | none => [])
    ++ (match s.fix with
      | some fix => [("proposedFix", fix)]
      | none => [])

end Suggestion

/-- Why a rule gives no answer. -/
inductive RuleError where
  | check (cause : CheckError)
  | description (cause : RenderError)
deriving DecidableEq, Repr

/-- A policy for the actions of a target. -/
structure Rule where
  id : String
  description : String
  target : Target
  effect : Effect
  checks : List Check := []
  suggestions : List Suggestion := []
  controls : List String := []

namespace Rule

/-- What the rule finds wrong with an action's arguments; nothing if it is not triggered. -/
def violations (args : Value) (context : Context) (rule : Rule) : Except RuleError (List String) :=
  if rule.checks.isEmpty then
    let template := if rule.description.isEmpty then rule.id else rule.description
    match Template.render context template with
    | .ok text => .ok [text]
    | .error e => .error (.description e)
  else
    match rule.checks.mapM (Check.violation args) with
    | .ok found => .ok (found.filterMap fun message => message)
    | .error e => .error (.check e)

/-- The written form of a rule. -/
def toValue (rule : Rule) : Value := .record
  [("id", .str rule.id), ("description", .str rule.description), ("target", rule.target.toValue),
   ("effect", .str rule.effect.name), ("checks", .list (rule.checks.map Check.toValue)),
   ("suggestions", .list (rule.suggestions.map Suggestion.toValue)),
   ("controls", .list (rule.controls.map .str))]

end Rule
end PolicyGate
