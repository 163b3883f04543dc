import PolicyGate.Regex.Matcher
import PolicyGate.Regex.Reader

/-!
# Patterns

A pattern is an expression that has been read and found usable, with the switches for the whole of it.
-/

namespace PolicyGate.Regex

/-- Can every part of the expression be matched? The first part that cannot is reported. -/
def Node.usable (flags : Flags) : Node → Except Problem Unit
  | .empty | .literal _ | .otherThan _ | .any | .oneOf _ _ | .anchor _ | .reference _ => .ok ()
  | .sequence a b | .choice a b | .condition _ a b => do a.usable flags; b.usable flags
  | .capture _ body | .scope _ _ body | .atomic body | .ahead _ body => body.usable flags
  | .times greed _ _ body =>
    if flags.template then .error (.repetitionInTemplate greed) else body.usable flags
  | .behind _ width body =>
    if 4294967295 < width.low then .error .lookbehindTooWide
    else if !width.isFixed then .error .lookbehindNotFixed
    else body.usable flags

/-- An expression ready for use. -/
structure Pattern where
  node : Node
  flags : Flags

namespace Pattern

/-- The pattern that a text writes, with letter case ignored or not. -/
def compile (text : String) (ignoreCase : Bool) : Except Fault Pattern :=
  match Reader.expression { ignoreCase } text.toList with
  | .error fault => .error fault
  | .ok (node, flags) =>
    match node.usable flags with
    | .error problem => .error (.unusable problem)
    | .ok () => .ok ⟨node, flags⟩

/-- Does the pattern match somewhere in the text? -/
def search (p : Pattern) (text : String) : Bool := p.node.search p.flags text.toList.toArray

end Pattern
end PolicyGate.Regex
