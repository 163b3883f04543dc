import PolicyGate.Text.CaseTable
import PolicyGate.Text.Ranges

/-!
# Letter case

Three mappings of texts (`lower`, `upper`, `caseFold`), which may make a text longer, and two of single
characters (`lowerChar`, `upperChar`), which give the first character of the mapped text. No mapping
looks at the neighbours of a character: a capital sigma becomes a small sigma, also at a word's end.
-/

namespace PolicyGate.Text

/-- The image of a code point under a list of runs in ascending order; itself if no run holds it. -/
def shifted : List CaseRun → Nat → Nat
  | [], n => n
  | run :: rest, n =>
    if run.first ≤ n && n ≤ run.last && (n - run.first) % run.step == 0 then
      ((n : Int) + run.shift).toNat
    else shifted rest n

/-- The first character of the lower-case form. -/
def lowerChar (c : Char) : Char :=
  if c.toNat < 128 then c.toLower else Char.ofNat (shifted lowerRuns c.toNat)

/-- The first character of the upper-case form. -/
def upperChar (c : Char) : Char :=
  if c.toNat < 128 then c.toUpper else Char.ofNat (shifted upperRuns c.toNat)

/-- The lower-case form of a character. Only the dotted capital I takes two characters. -/
def lowerChars (c : Char) : List Char :=
  if c == 'İ' then ['i', '\u0307'] else [lowerChar c]

/-- The upper-case form of a character. -/
def upperChars (c : Char) : List Char :=
  match longUpper.find? (·.1 == c.toNat) with
  | some (_, image) => if c.toNat < 128 then [upperChar c] else image.map Char.ofNat
  | none => [upperChar c]

/-- The case folding of a character: texts that differ in letter case only fold to the same text. -/
def foldChars (c : Char) : List Char :=
  if c.toNat < 128 then [c.toLower]
  else match longFold.find? (·.1 == c.toNat) with
    | some (_, image) => image.map Char.ofNat
    | none =>
      if inRanges foldKept c.toNat then [c]
      else
        let n := shifted foldRuns c.toNat
        if n ≠ c.toNat then [Char.ofNat n] else [lowerChar c]

/-- The text in lower case. -/
def lower (s : String) : String := String.ofList (s.toList.flatMap lowerChars)

/-- The text in upper case. -/
def upper (s : String) : String := String.ofList (s.toList.flatMap upperChars)

/-- The text folded for comparison irrespective of letter case. -/
def caseFold (s : String) : String := String.ofList (s.toList.flatMap foldChars)

/-- The lower-case form of a code point, as a single one. -/
def lowerPoint (n : Nat) : Nat := shifted lowerRuns n

/-- The upper-case form of a code point, as a single one. -/
def upperPoint (n : Nat) : Nat := shifted upperRuns n

/-- Does the code point have a different lower-case or upper-case form? -/
def isCased (n : Nat) : Bool := lowerPoint n != n || upperPoint n != n

/-- The other code points in lower case that share their upper-case form with the given one. -/
def upperTwins (n : Nat) : List Nat :=
  match sameUpper.find? (·.1 == n) with
  | some (_, twins) => twins
  | none => []

/-- Does the run hold a code point between two bounds? -/
def CaseRun.meets (run : CaseRun) (low high : Nat) : Bool :=
  let from_ := max low run.first
  let offset := (from_ - run.first + run.step - 1) / run.step * run.step
  run.first + offset ≤ min high run.last

/-- Is there a code point between two bounds that has a different form in some case? -/
def anyCased (low high : Nat) : Bool :=
  lowerRuns.any (·.meets low high) || upperRuns.any (·.meets low high)

/-- Is the given code point the lower-case form of one between two bounds? -/
def lowerReaches (low high n : Nat) : Bool :=
  let inBounds (m : Nat) := low ≤ m && m ≤ high && lowerPoint m == n
  inBounds n || lowerRuns.any fun run => inBounds ((n : Int) - run.shift).toNat

end PolicyGate.Text
