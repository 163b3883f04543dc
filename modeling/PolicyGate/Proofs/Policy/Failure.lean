import PolicyGate.Proofs.Policy.Compilation
import PolicyGate.Proofs.Policy.Patterns
import PolicyGate.Proofs.Value.Holding

/-!
# When compiling fails

A document that does not compile is unusable as a rule, with a complaint at its place; but for three other ways
to fail (`Document.compile_eq_error`). A pattern may be refused although it is not malformed, and a stray
suggestion may be no mapping where one is looked for, or may be too long to be written.
-/

namespace PolicyGate

open Attempt Value

/-- The pattern is refused, and not because it is malformed. -/
def IsOddPattern (text : String) (fault : Regex.Fault) : Prop :=
  Regex.Pattern.compile text false = .error fault ∧ fault.isMalformed = false

/-- When this goes wrong other than by an unusable entry, it is because of an odd pattern. -/
def FailsByPattern {α : Type} (x : Except BuildError α) : Prop :=
  ∀ text fault, x = .error (.pattern text fault) → IsOddPattern text fault

section

variable {α β : Type} {x : Except BuildError α} {f : α → Except BuildError β} {text given whole : String}

theorem FailsByPattern.bind (hx : FailsByPattern x) (hf : ∀ a, FailsByPattern (f a)) :
    FailsByPattern (x >>= f) := by
  intro text fault h
  rcases bind_eq_error.1 h with h | ⟨a, -, h⟩
  · exact hx text fault h
  · exact hf a text fault h

end

/-! ## Intents -/

namespace Intent

variable {v : Value} {path message : String} {fallbacks : List String}

end Intent

/-! ## Checks as they are written -/

/-- The test is made of what can be used: a pattern that can be compiled, a normalization that there is. -/
def Test.IsUsable : Test → Prop
  | .matching pattern _ => ∃ text p, pattern = some text ∧ Regex.Pattern.compile text false = .ok p
  | .among _ _ normalizer => normalizer.all (fun name => (normalizer? name).isSome) = true
  | .withoutBlanks | .withKeys _ | .isTrue | .present | .equalTo _ | .notEqualTo _ => True

namespace CheckSpec

/-- What an entry for a check comes to: it cannot be used, or its pattern is refused, or there is a check with a
test that can be used. -/
inductive Asks (spec : CheckSpec) : Except BuildError Check → Prop
  | unusable {cause : Unusable} : spec.Asks (.error (.unusable cause))
  | refused {text : String} {e : BuildError} (hkind : CheckKind.ofName? spec.type = some .matching)
      (hplaced : spec.path ≠ "") (hpattern : spec.pattern = some text) (hrefused : validPattern text = .error e) :
      spec.Asks (.error e)
  | check {test : Test} (hplaced : spec.path ≠ "") (husable : test.IsUsable) :
      spec.Asks (.ok { path := spec.path, test, message := spec.message, fallbacks := spec.fallbacks })

theorem asks (spec : CheckSpec) : spec.Asks spec.toCheck := by
  unfold toCheck
  cases hkind : CheckKind.ofName? spec.type with
  -- an entry is judged in this order: its type, its path, and then what its type needs
  | none => exact .unusable
  | some kind =>
    dsimp only
    split
    · exact .unusable
    · rename_i hpath
      have hplaced : spec.path ≠ "" := by simpa [String.isEmpty_iff] using hpath
      cases kind with
      | matching =>
        cases hpattern : spec.pattern with
        | none => exact .unusable
        | some pattern =>
          dsimp only
          cases hvalid : validPattern pattern with
          | error e => exact .refused hkind hplaced hpattern hvalid
          | ok u =>
            obtain ⟨p, hp⟩ := acceptPattern_eq_ok.1 hvalid
            exact .check hplaced ⟨pattern, p, rfl, hp⟩
      | among =>
        cases spec.values with
        | none => exact .unusable
        | some values =>
          cases spec.normalizer with
          | none => exact .check hplaced rfl
          | some name =>
            dsimp only
            split
            · exact .unusable
            · rename_i hknown
              have hsome : (normalizer? name).isSome = true := by
                simpa [Option.isSome_iff_ne_none] using hknown
              exact .check hplaced hsome
      | withKeys =>
        cases spec.keys with
        | none => exact .unusable
        | some keys => exact .check hplaced trivial
      | equalTo | notEqualTo =>
        cases spec.value with
        | none => exact .unusable
        | some expected => exact .check hplaced trivial
      | withoutBlanks | isTrue | present => exact .check hplaced trivial

end CheckSpec

/-! ## Rules -/

variable {e : CompileError}

namespace Advisory

end Advisory

/-! ## Stray suggestions -/

namespace Section

variable {s : Section} {v : Value}

end Section

namespace Document

variable {raw v : Value} {profile : String}

end Document
end PolicyGate
