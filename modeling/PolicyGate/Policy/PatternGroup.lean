/-!
# Patterns as parts of larger patterns

A pattern that is put inside another one must keep its own flags. Flags written at its start, as in
`(?i)name`, would be an error there, so they become flags of a group around the pattern.
-/

namespace PolicyGate.PatternGroup

/-- May the letter stand among the flags at the start of a pattern? -/
def isFlagLetter (c : Char) : Bool := "aiLmsux".toList.contains c

/-- The letters of one group of flags at the start of the pattern, and the pattern behind it. -/
def leadingFlags? : List Char → Option (List Char × List Char)
  | '(' :: '?' :: cs =>
    let letters := cs.takeWhile isFlagLetter
    match cs.dropWhile isFlagLetter with
    | ')' :: rest => if letters.isEmpty then none else some (letters, rest)
    | _ => none
  | _ => none

/-- All flags at the start of the pattern, and the pattern behind them. -/
def splitFlags : Nat → List Char → List Char × List Char
  | 0, cs => ([], cs)
  | fuel + 1, cs =>
    match leadingFlags? cs with
    | some (letters, rest) =>
      let (more, body) := splitFlags fuel rest
      (letters ++ more, body)
    | none => ([], cs)

/-- The list without later repetitions of an element. -/
def distinct : List Char → List Char → List Char
  | seen, [] => seen
  | seen, c :: cs => distinct (if seen.contains c then seen else seen ++ [c]) cs

/-- The pattern as a group that stands for itself wherever it is put. -/
def group (pattern : String) : String :=
  let cs := pattern.toList
  let (flags, body) := splitFlags cs.length cs
  if flags.isEmpty then "(?:" ++ pattern ++ ")"
  else "(?" ++ String.ofList (distinct [] flags) ++ ":" ++ String.ofList body ++ ")"

end PolicyGate.PatternGroup
