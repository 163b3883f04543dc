/-!
# Sets of code points

A property of characters is a list of ranges of code points in ascending order.
-/

namespace PolicyGate.Text

/-- Does the code point lie in one of the ascending ranges? -/
def inRanges : List (Nat × Nat) → Nat → Bool
  | [], _ => false
  | (low, high) :: rest, n => if n < low then false else n ≤ high || inRanges rest n

end PolicyGate.Text
