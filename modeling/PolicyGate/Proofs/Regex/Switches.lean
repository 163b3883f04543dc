import Mathlib.Data.List.TakeWhile
import PolicyGate.Policy.PatternGroup
import PolicyGate.Proofs.Regex.Evaluation

/-!
# Switches in front of a pattern

The letters at the start of a pattern turn on switches for the whole of it. A pattern that is made a group gives them
up, and the group turns the same switches on for the rest, in letters of which none is repeated.
-/

namespace PolicyGate.Regex

namespace Reader

/-! ## Letters for switches -/

section

variable {start fuel : Nat} {atStart verbose : Bool} {done : List Node} {letter close : Char}
  {letters more : List Char} {s s' : Progress}

end

/-! ## The start of a pattern -/

end Reader

end PolicyGate.Regex
