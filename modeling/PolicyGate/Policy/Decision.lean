import PolicyGate.Policy.Rule

/-!
# Decisions

A decision is what the rules say about one action. It is folded from the rules in order: every
applicable rule is recorded, a triggered one adds its reason, its suggestions and its controls, and may
raise the verdict. A rule that gives no answer denies the action.
-/

namespace PolicyGate

/-- The outcome of a decision, in ascending order of severity. -/
inductive Verdict where
  | allow
  | warn
  | deny
deriving DecidableEq, Repr

namespace Verdict

/-- The severity. -/
def rank : Verdict → Nat
  | .allow => 0
  | .warn => 1
  | .deny => 2

/-- The word for a verdict. -/
def name : Verdict → String
  | .allow => "allow"
  | .warn => "warn"
  | .deny => "deny"

/-- The verdict that a word stands for. -/
def ofName? : String → Option Verdict
  | "allow" => some .allow
  | "warn" => some .warn
  | "deny" => some .deny
  | _ => none

/-- The verdict that an effect leads to. -/
def ofEffect : Effect → Verdict
  | .deny => .deny
  | .warn => .warn

/-- The more severe of two verdicts. -/
def max (a b : Verdict) : Verdict := if a.rank < b.rank then b else a

theorem rank_max (a b : Verdict) : (a.max b).rank = Nat.max a.rank b.rank := by
  cases a <;> cases b <;> rfl

end Verdict

/-- What the rules say about an action. -/
structure Decision where
  verdict : Verdict := .allow
  reasons : List String := []
  matched : List String := []
  suggestions : List Suggestion := []
  controls : List String := []
  evaluated : List String := []

namespace Decision

/-- The list with the elements of another one that it does not hold yet. -/
def extendDistinct (controls : List String) (more : List String) : List String :=
  more.foldl (fun done control => if done.contains control then done else done ++ [control]) controls

/-- The messages of a rule and its effect; one that gives no answer denies. -/
def outcome (args : Value) (context : Context) (rule : Rule) : List String × Effect :=
  match rule.violations args context with
  | .ok messages => (messages, rule.effect)
  | .error _ => (["rule could not be evaluated"], .deny)

/-- The decision with one more applicable rule. -/
def consider (args : Value) (context : Context) (d : Decision) (rule : Rule) :
    Except RenderError Decision := do
  let d := { d with evaluated := d.evaluated ++ [rule.id] }
  let (messages, effect) := outcome args context rule
  if messages.isEmpty then return d
  let suggestions ← rule.suggestions.mapM (·.rendered context)
  return { d with
    verdict := d.verdict.max (.ofEffect effect)
    reasons := d.reasons ++ [rule.id ++ ": " ++ String.intercalate "; " messages]
    matched := d.matched ++ [rule.id]
    suggestions := d.suggestions ++ suggestions
    controls := extendDistinct d.controls rule.controls }

/-- What the rules say about an action with the given full name. -/
def ofRules (rules : List Rule) (action : String) (args : Value) (context : Context) :
    Except RenderError Decision := do
  let applicable := rules.filter (·.target.covers action)
  let d ← applicable.foldlM (consider args context) {}
  if d.evaluated.isEmpty then
    return { d with reasons := d.reasons ++ ["no applicable policy for '" ++ action ++ "'"] }
  else return d

/-- The written form of a decision; suggestions and controls are left out when there are none. -/
def toValue (d : Decision) : Value :=
  .record <| [("decision", .str d.verdict.name), ("reasons", .list (d.reasons.map .str)),
      ("policyIds", .list (d.matched.map .str))]
    ++ (if d.suggestions.isEmpty then [] else
        [("suggestions", .list (d.suggestions.map Suggestion.toValue))])
    ++ (if d.controls.isEmpty then [] else [("controls", .list (d.controls.map .str))])

/-- The decision as a section of Markdown: a heading, then reasons, suggestions and controls. -/
def markdown (title : String) (d : Decision) : String :=
  let suggestionLine (s : Suggestion) : String :=
    let text := s.text.text?.getD ""
    match given s.title with
    | some heading => "- " ++ heading ++ ": " ++ text
    | none => "- " ++ text
  String.intercalate "\n" <|
    ["### " ++ title ++ " (" ++ d.verdict.name ++ ")"] ++ d.reasons.map ("- " ++ ·)
      ++ (if d.suggestions.isEmpty then [] else
          ["", "**Suggestions**"] ++ d.suggestions.map suggestionLine)
      ++ (if d.controls.isEmpty then [] else
          ["", "**Controls**: " ++ String.intercalate ", " d.controls])

end Decision
end PolicyGate
