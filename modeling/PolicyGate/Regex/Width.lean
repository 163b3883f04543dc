import PolicyGate.Regex.Node

/-!
# Widths

How many characters an expression can match, from a least to a greatest number. Both are cut off at a
bound that stands for "without limit". A look-behind needs equal ones.
-/

namespace PolicyGate.Regex

namespace Width

/-- Widths from here on count as unlimited. -/
def limit : Nat := Nat.pow 2 64

/-- The width of nothing. -/
def zero : Width := ⟨0, 0⟩

/-- The width of a character. -/
def one : Width := ⟨1, 1⟩

/-- The width with both numbers cut off at the limit. -/
def capped (w : Width) : Width := ⟨min w.low limit, min w.high limit⟩

/-- The width of two expressions one after the other. -/
def followedBy (a b : Width) : Width := capped ⟨a.low + b.low, a.high + b.high⟩

/-- The width of a choice. -/
def orElse (a b : Width) : Width := ⟨min a.low b.low, max a.high b.high⟩

/-- The width of a repetition. -/
def repeated (w : Width) (least : Nat) (most : Option Nat) : Width :=
  capped ⟨w.low * least,
    match most with
    | some n => w.high * n
    | none => if w.high = 0 then 0 else limit⟩

/-- Is the width one number? -/
def isFixed (w : Width) : Bool := w.low == w.high

end Width

/-- The width of an expression, given the widths of the groups from the first on. -/
def Node.width (groups : List (Option Width)) : Node → Width
  | .empty => .zero
  | .sequence a b => (a.width groups).followedBy (b.width groups)
  | .choice a b => (a.width groups).orElse (b.width groups)
  | .literal _ | .otherThan _ | .any | .oneOf _ _ => .one
  | .anchor _ => .zero
  | .capture _ body | .scope _ _ body | .atomic body => body.width groups
  | .times _ least most body => (body.width groups).repeated least most
  | .reference group => ((groups[group - 1]?).join).getD .zero
  | .condition _ yes no => (yes.width groups).orElse (no.width groups)
  | .ahead _ _ | .behind _ _ _ => .zero

end PolicyGate.Regex
