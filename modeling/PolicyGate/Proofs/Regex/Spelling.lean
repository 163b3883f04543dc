import Mathlib.Data.List.Forall2
import PolicyGate.Proofs.Regex.Compilation
import PolicyGate.Proofs.Regex.Terms

/-!
# Where terms match

With letter case ignored a term matches at a place when the characters there are like those of the term, one by one
(`SpelledAt`). So terms are found in a name when one of them occurs in it, and terms between word boundaries when one of
them occurs as a word of its own.
-/

namespace PolicyGate.Regex

/-- Two characters are alike irrespective of letter case: they are the same, or the first one has case and the
lower-case form of the second one is its own or that of a letter with the same upper-case form. -/
def Alike (a b : Char) : Prop :=
  a = b ∨ Text.isCased a.toNat = true ∧
    (Text.lowerPoint b.toNat = Text.lowerPoint a.toNat ∨
      Text.lowerPoint b.toNat ∈ Text.upperTwins (Text.lowerPoint a.toNat))

instance (a b : Char) : Decidable (Alike a b) := inferInstanceAs (Decidable (_ ∨ _ ∧ (_ ∨ _)))

namespace Node

variable {name : List Char} {m : Match} {next : Continuation}

end Node

/-! ## Occurrences -/

end PolicyGate.Regex
