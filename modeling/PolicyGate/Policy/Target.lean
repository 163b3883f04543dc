import PolicyGate.Text.Split
import PolicyGate.Value.Basic

/-!
# Targets

A rule applies to one action by its full name, or to all actions of a namespace: the part of the name
before the first dot.
-/

namespace PolicyGate

/-- The namespace of an action: its name up to the first dot. -/
def namespaceOf (action : String) : String :=
  String.ofList (action.toList.takeWhile (· != '.'))

/-- The actions a rule applies to. -/
inductive Target where
  | action (name : String)
  | space (name : String)
deriving DecidableEq, Repr

/-- A target was described by both an action and a namespace, or by neither. -/
inductive TargetError where
  | notExactlyOne
deriving DecidableEq, Repr

/-- The error in words. -/
def TargetError.message : TargetError → String
  | .notExactlyOne => "RuleTarget needs exactly one of action_name or namespace_prefix"

namespace Target

/-- The target described by exactly one of an action name and a namespace. -/
def ofNames (name namespaceName : Option String) : Except TargetError Target :=
  match name, namespaceName with
  | some a, none => .ok (.action a)
  | none, some s => .ok (.space s)
  | _, _ => .error .notExactlyOne

/-- Does the target include the action? -/
def covers : Target → String → Bool
  | .action name, called => name == called
  | .space name, called => name == namespaceOf called

/-- The written form of a target. -/
def toValue : Target → Value
  | .action name => .record [("tool", .str name)]
  | .space name => .record [("prefix", .str name)]

end Target
end PolicyGate
