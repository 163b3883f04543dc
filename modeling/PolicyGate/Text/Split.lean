/-!
# Cutting texts at a separator

`splitAt` cuts at every separator and keeps empty parts, so it has one part more than there are
separators, and joining the parts gives the text back.
-/

namespace PolicyGate.Text

/-- The parts of a text between separators. -/
def splitChars (separator : Char) : List Char → List (List Char)
  | [] => [[]]
  | c :: cs =>
    if c = separator then [] :: splitChars separator cs
    else match splitChars separator cs with
      | part :: parts => (c :: part) :: parts
      | [] => [[c]]

theorem splitChars_ne_nil (separator : Char) (cs : List Char) : splitChars separator cs ≠ [] := by
  cases cs with
  | nil => simp [splitChars]
  | cons c cs =>
    simp only [splitChars]
    split
    · simp
    · split <;> simp

/-- The parts of a text between separators. -/
def splitAt (separator : Char) (s : String) : List String :=
  (splitChars separator s.toList).map String.ofList

end PolicyGate.Text
