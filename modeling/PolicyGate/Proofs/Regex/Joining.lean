import PolicyGate.Proofs.Regex.Grouping
import PolicyGate.Proofs.Regex.Matching

/-!
# Patterns joined by bars

Groups of patterns with bars between them are a choice of the patterns. Behind the first one the numbers of groups are
higher than they are in the pattern by itself, so a pattern that says a number says another one there; and a comment
that a pattern leaves open goes on in the next one. A pattern that does neither stands for itself at its place.
-/

namespace PolicyGate.Regex

namespace Reader

variable {text : Array Char} {place : Nat}

/-- The patterns as groups, with bars between them. -/
def joined (patterns : List String) : List Char :=
  ['|'].intercalate (patterns.map fun pattern => (PatternGroup.group pattern).toList)

end Reader

namespace Pattern

end Pattern

end PolicyGate.Regex
