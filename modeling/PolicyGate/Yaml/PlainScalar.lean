import PolicyGate.Yaml.Cursor

/-!
# Plain scalars

A scalar without quotes goes on until something stands there that cannot be part of it: a colon that
ends a key, a comment, inside of brackets a comma or a bracket, or a line that is indented too little.
The line ends within it are folded.
-/

namespace PolicyGate.Yaml

/-- The characters of a line that belong to a plain scalar, from the next one on. -/
def plainRun (inBrackets : Bool) : List Char → List Char
  | [] => []
  | c :: rest =>
    let endsKey := c == ':' &&
      (endsWord rest.head? || inBrackets && rest.head?.any fun d => ",[]\x7b\x7d".toList.contains d)
    if endsWord (some c) || endsKey || inBrackets && ",?[]\x7b\x7d".toList.contains c then []
    else c :: plainRun inBrackets rest

/-- Reads the lines up to the next character that is neither a space nor the end of a line. There is
nothing to read on if documents are separated. -/
def plainBreaks : Nat → Scan (Option (List Char))
  | 0 => return some []
  | fuel + 1 => do
    if (← get).atSeparator then return none
    discard <| Scan.takeWhile (· = ' ')
    let here ← Scan.lineBreak
    if here.isEmpty then return some []
    return (← plainBreaks fuel).map (here ++ ·)

/-- Reads what stands between two runs of a plain scalar, and whether it spans lines. It is empty where
the scalar ends. -/
def plainGap : Scan (List Char × Bool) := do
  let spaces ← Scan.takeWhile (· = ' ')
  let first ← Scan.lineBreak
  if first.isEmpty then return (spaces, false)
  match ← plainBreaks ((← get).rest.length + 1) with
  | none => return ([], true)
  | some others => return (folded first others, true)

/-- Reads the rest of a plain scalar behind a gap, and whether it ends at the start of a line. -/
def plainRest (inBrackets : Bool) (indent : Int) (gap : List Char) (atStart : Bool) :
    Nat → Scan (List Char × Bool)
  | 0 => return ([], atStart)
  | fuel + 1 => do
    let run := plainRun inBrackets (← get).rest
    if (← Scan.peek) = some '#' || run.isEmpty then return ([], atStart)
    Scan.skip run.length
    let (next, spansLines) ← plainGap
    let c ← get
    if next.isEmpty || c.rest.head? = some '#' || !inBrackets && (c.column : Int) < indent then
      return (gap ++ run, spansLines)
    let (more, atStart) ← plainRest inBrackets indent next spansLines fuel
    return (gap ++ run ++ more, atStart)

/-- Reads a plain scalar in a block of some indentation, and whether it ends at the start of a line. -/
def plainScalar (inBrackets : Bool) (indent : Int) : Scan (String × Bool) := do
  let (text, atStart) ← plainRest inBrackets (indent + 1) [] false ((← get).rest.length + 1)
  return (String.ofList text, atStart)

end PolicyGate.Yaml
