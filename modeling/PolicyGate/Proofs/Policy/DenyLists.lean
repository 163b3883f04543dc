import PolicyGate.Proofs.Policy.Patterns
import PolicyGate.Proofs.Regex.Spelling

/-!
# Deny lists

A list of terms is made into one pattern of the names in which no term occurs. Whatever the terms are, this pattern can
be used and means what it says (`Check.Bans`): in a name of one line it finds every term, and in any other name every
term that is not empty.
-/

namespace PolicyGate

open Attempt Regex

namespace Intent

variable {terms : List String} {pattern message : String} {node : Node} {args : Value}
  {Found : List Char → List Char → Prop} {Stands : List Char → List Char → Nat → Prop}

theorem toList_alternation : (alternation terms).toList = Reader.alternation (terms.map String.toList) := by
  rw [alternation, String.toList_intercalate, Reader.alternation, List.map_map, List.map_map]
  refine congrArg _ (List.map_congr_left fun term _ => ?_)
  exact String.toList_ofList

theorem toList_withoutTerms : (withoutTerms terms).toList =
    Reader.frameStart ++ (Reader.termGroup (terms.map String.toList) ++ Reader.frameEnd) := by
  have hstart : "^(?!.*(?:".toList = Reader.frameStart ++ ['(', '?', ':'] := rfl
  have hend : ")).+$".toList = ')' :: Reader.frameEnd := rfl
  rw [withoutTerms, String.toList_append, String.toList_append, toList_alternation, hstart, hend, Reader.termGroup]
  simp

theorem toList_withoutWords : (withoutWords terms).toList =
    Reader.frameStart ++ ("(?<!\\w)".toList ++ (Reader.termGroup (terms.map String.toList) ++
      ("(?!\\w)".toList ++ Reader.frameEnd))) := by
  have hstart : "^(?!.*(?<!\\w)(?:".toList = Reader.frameStart ++ ("(?<!\\w)".toList ++ ['(', '?', ':']) := rfl
  have hend : ")(?!\\w)).+$".toList = ')' :: ("(?!\\w)".toList ++ Reader.frameEnd) := rfl
  rw [withoutWords, String.toList_append, String.toList_append, toList_alternation, hstart, hend, Reader.termGroup]
  simp

/-- The pattern of a list of terms can be used, whatever the terms are. -/
theorem compile_withoutTerms_false (hne : terms ≠ []) :
    Pattern.compile (withoutTerms terms) false =
      .ok ⟨(Node.scope {} {} (Node.anyTerm (terms.map String.toList))).absent, {}⟩ := by
  have hchars : terms.map String.toList ≠ [] := by simpa using hne
  have hread := Reader.expression_of_framedTerms hchars
  rw [← toList_withoutTerms] at hread
  exact Pattern.compile_eq_ok.2 ⟨hread, Node.usable_absent Node.usable_anyTerm⟩

theorem compile_withoutWords_false (hne : terms ≠ []) :
    Pattern.compile (withoutWords terms) false =
      .ok ⟨(Node.wordTerms (terms.map String.toList)).absent, {}⟩ := by
  have hchars : terms.map String.toList ≠ [] := by simpa using hne
  have hread := Reader.expression_of_framedWords hchars
  rw [← toList_withoutWords] at hread
  exact Pattern.compile_eq_ok.2 ⟨hread, Node.usable_absent Node.usable_wordTerms⟩

end Intent

end PolicyGate
