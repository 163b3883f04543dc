import PolicyGate.Proofs.Regex.Switches

/-!
# Patterns as groups

Read in a group, what follows the switches of a pattern is the tree of the pattern by itself
(`alternatives_of_body`), unless a comment that the pattern leaves open swallows the end of the group; and what is in
front of the group raises the numbers of its groups.
-/

namespace PolicyGate.Regex

namespace Reader

/-! ## Groups by number -/

/-- The text is the body of a group. -/
def Surroundings.group (more : List Char) (groups : List (Option Width)) (names : List (String × Nat))
    (own switches : Flags) (hline : '\n' ∉ more) (hescape : '\\' ∉ more) : Surroundings where
  suffix := ')' :: more
  groups := groups
  names := names
  inside := true
  closed := false
  own := own
  switches := switches
  suffix_of_open _ := .inr ⟨more, rfl, hline, hescape⟩
  whole h := nomatch h

section

variable {flags₀ flags : Flags} {pattern : String} {tree body : Node} {more : List Char} {e e' : Progress} {fuel : Nat}

end

end Reader

end PolicyGate.Regex
