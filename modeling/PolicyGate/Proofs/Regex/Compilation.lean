import PolicyGate.Proofs.Regex.Embedding

/-!
# Compiling with letter case ignored

A pattern is validated as it stands and later used with letter case ignored. Reading it does not depend on that
switch, so what has been accepted once can be used either way, as the same tree with one more switch on.
-/

namespace PolicyGate.Regex

namespace Flags

end Flags

namespace Reader

/-- The reader at the start of a text. -/
def start (flags : Flags) (text : List Char) : Progress := ⟨0, text, flags, [], [], none, []⟩

section

variable {flags flags' : Flags} {text : List Char} {node : Node} {p : Progress}

/-- What becomes of a choice that has been read. -/
theorem expression_of_read (htext : text ≠ ['\\'])
    (hread : alternatives true flags.verbose (4 * text.length + 8) (start flags text) = .ok (node, p)) :
    expression flags text =
      if p.flags.ascii && p.flags.unicode then .error .twoCharacterSets
      else if !p.rest.isEmpty then .error (.malformed .unbalanced p.position)
      else (p.conditions.find? fun used => p.groups.length + 1 ≤ used.1).elim (.ok (node, p.flags))
        fun used => .error (.malformed (.invalidReference used.1) used.2) := by
  unfold expression
  rw [if_neg htext]
  show (alternatives true flags.verbose (4 * text.length + 8) (start flags text)).bind _ = _
  rw [hread]
  simp only [Except.bind]
  cases p.flags.ascii && p.flags.unicode with
  | true => rfl
  | false =>
    cases p.rest.isEmpty with
    | false => rfl
    | true =>
      simp only [Bool.false_eq_true, if_false, Bool.not_true]
      cases p.conditions.find? (fun used => p.groups.length + 1 ≤ used.1) <;> rfl

/-- Every condition is on a group that there is. -/
theorem find?_conditions_eq_none :
    (p.conditions.find? fun used => p.groups.length + 1 ≤ used.1) = none ↔
      ∀ used ∈ p.conditions, used.1 ≤ p.groups.length := by
  rw [List.find?_eq_none]
  refine forall₂_congr fun used _ => ?_
  rw [decide_eq_true_eq, Nat.not_le, Nat.lt_succ_iff]

/-- A text is an expression if it can be read to its end as a choice. -/
theorem expression_eq_ok :
    expression flags text = .ok (node, flags') ↔
      text ≠ ['\\'] ∧ ∃ p, alternatives true flags.verbose (4 * text.length + 8) (start flags text) = .ok (node, p) ∧
        (p.flags.ascii && p.flags.unicode) = false ∧ p.rest = [] ∧
        (∀ used ∈ p.conditions, used.1 ≤ p.groups.length) ∧ flags' = p.flags := by
  by_cases htext : text = ['\\']
  · simp [expression, htext, throw, throwThe, MonadExceptOf.throw, bind, Except.bind]
  cases hread : alternatives true flags.verbose (4 * text.length + 8) (start flags text) with
  | error fault =>
    have hexpression : expression flags text = .error fault := by
      unfold expression
      rw [if_neg htext]
      show (alternatives true flags.verbose (4 * text.length + 8) (start flags text)).bind _ = _
      rw [hread]
      rfl
    simp [hexpression]
  | ok r =>
    obtain ⟨read, p⟩ := r
    rw [expression_of_read htext hread]
    constructor
    · intro h
      split at h
      · cases h
      rename_i hsets
      split at h
      · cases h
      rename_i hrest
      cases hconditions : p.conditions.find? (fun used => p.groups.length + 1 ≤ used.1) with
      | some used =>
        rw [hconditions] at h
        cases h
      | none =>
        rw [hconditions] at h
        cases h
        exact ⟨htext, p, rfl, by simpa using hsets, by simpa using hrest, find?_conditions_eq_none.1 hconditions, rfl⟩
    · rintro ⟨-, q, hq, hsets, hrest, hconditions, rfl⟩
      cases hq
      rw [hsets, hrest, find?_conditions_eq_none.2 hconditions]
      rfl

end

end Reader

namespace Pattern

theorem compile_eq_ok {text : String} {ignoreCase : Bool} {p : Pattern} :
    compile text ignoreCase = .ok p ↔
      Reader.expression { ignoreCase } text.toList = .ok (p.node, p.flags) ∧ p.node.usable p.flags = .ok () := by
  rw [compile]
  cases hread : Reader.expression { ignoreCase } text.toList with
  | error fault =>
    constructor
    · exact fun h => nomatch h
    · exact fun h => nomatch h.1
  | ok r =>
    obtain ⟨node, flags⟩ := r
    simp only
    cases husable : node.usable flags with
    | error problem =>
      constructor
      · exact fun h => nomatch h
      · rintro ⟨hr, hp⟩
        cases hr
        exact absurd (husable.symm.trans hp) (by simp)
    | ok =>
      constructor
      · intro h
        cases h
        exact ⟨rfl, husable⟩
      · rintro ⟨hr, -⟩
        cases hr
        rfl

end Pattern

end PolicyGate.Regex
