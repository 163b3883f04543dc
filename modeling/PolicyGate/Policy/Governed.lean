import PolicyGate.Policy.RuleSet

/-!
# Governed handlers

A handler of an action is only called when the action is not denied. Its answer is passed on unchanged
when the action is allowed; with warnings, the decision and an advice are added to it.
-/

namespace PolicyGate.Governed

/-- The answer to a denied action. -/
def refusal (d : Decision) : Value := .record
  [("status", .str "deny"), ("governance", d.toValue),
   ("text", .str (d.markdown "Blocked by governance policy")), ("is_error", .bool true)]

/-- A handler's answer with the decision and an advice added. One that is no mapping becomes the field
`result` of one. -/
def withAdvice (d : Decision) (answer : Value) : Value :=
  let entries := (answer.entries?).getD [(.str "result", answer)]
  .map (Value.put (Value.put entries (.str "governance") d.toValue) (.str "advisory")
    (.str (d.markdown "Governance warnings")))

/-- The answer to an action, if its handler need not be called. -/
def early? (d : Decision) : Option Value :=
  match d.verdict with
  | .deny => some (refusal d)
  | .allow | .warn => none

/-- The answer to an action whose handler has answered. -/
def final (d : Decision) (answer : Value) : Value :=
  match d.verdict with
  | .allow => answer
  | .warn | .deny => withAdvice d answer

end PolicyGate.Governed
