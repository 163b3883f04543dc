import PolicyGate.Text.Ranges

/-!
# Blanks

The characters that separate words: the ASCII controls from tab to carriage return and from the file
separator to the unit separator, the next-line control, and the space separators of every script.
-/

namespace PolicyGate.Text

/-- The blanks as ranges of code points. -/
def blankRanges : List (Nat × Nat) :=
  [(9, 13), (28, 32), (133, 133), (160, 160), (5760, 5760), (8192, 8202), (8232, 8233),
   (8239, 8239), (8287, 8287), (12288, 12288)]

/-- Does the character separate words? -/
def isBlank (c : Char) : Bool := inRanges blankRanges c.toNat

/-- The characters without the blanks at both ends. -/
def trimChars (cs : List Char) : List Char :=
  ((cs.dropWhile isBlank).reverse.dropWhile isBlank).reverse

/-- The text without the blanks at both ends. -/
def trim (s : String) : String := String.ofList (trimChars s.toList)

/-- The maximal runs of characters that are not blank, in order. -/
def wordsOfChars (cs : List Char) : List (List Char) :=
  let close (word : List Char) (done : List (List Char)) := if word.isEmpty then done else word :: done
  let (word, done) := cs.foldr (fun c (word, done) =>
    if isBlank c then ([], close word done) else (c :: word, done)) ([], [])
  close word done

/-- The words of a text. -/
def words (s : String) : List String := (wordsOfChars s.toList).map String.ofList

end PolicyGate.Text
