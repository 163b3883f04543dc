import PolicyGate.Yaml.Cursor

/-!
# Block scalars

A block scalar is an indented block of lines below its header. The header says whether line ends are
kept or folded, what becomes of those at the end, and perhaps the indentation; else the first line that
is not empty sets it.
-/

namespace PolicyGate.Yaml

/-- What becomes of the line ends behind the last line. -/
inductive Chomping where
  /-- One of them is kept. -/
  | clip
  | strip
  | keep
deriving DecidableEq, Repr

/-- Reads the sign for the line ends at the end. -/
def chomping : Scan (Option Chomping) := do
  match ← Scan.peek with
  | some '+' =>
    Scan.skip 1
    return some .keep
  | some '-' =>
    Scan.skip 1
    return some .strip
  | _ => return none

/-- Reads the digit for the indentation. -/
def increment : Scan (Option Nat) := do
  match ← Scan.peek with
  | some c =>
    if !c.isDigit then return none
    if c = '0' then Scan.fail
    Scan.skip 1
    return some (c.toNat - 48)
  | none => return none

/-- Reads the signs of a header, in either order. -/
def blockHeader : Scan (Chomping × Option Nat) := do
  let before ← chomping
  let digit ← increment
  let after ← if before.isNone && digit.isSome then chomping else pure none
  if !endsProperty (← Scan.peek) then Scan.fail
  return ((before.orElse fun _ => after).getD .clip, digit)

/-- Reads the empty lines in front of a block, and the greatest column on the way. -/
def blockStart (widest : Nat) : Nat → Scan (List Char × Nat)
  | 0 => return ([], widest)
  | fuel + 1 => do
    if (← Scan.peek) = some ' ' then
      Scan.skip 1
      blockStart (max widest (← get).column) fuel
    else
      let here ← Scan.lineBreak
      if here.isEmpty then return ([], widest)
      let (more, widest) ← blockStart widest fuel
      return (here ++ more, widest)

/-- Moves past spaces, up to a column. -/
def indentTo (column : Nat) : Scan Unit := do
  let c ← get
  let spaces := c.rest.takeWhile (· = ' ')
  Scan.skip (min spaces.length (column - c.column))

/-- Reads empty lines in a block. -/
def blockBreaks (indent : Nat) : Nat → Scan (List Char)
  | 0 => return []
  | fuel + 1 => do
    indentTo indent
    let here ← Scan.lineBreak
    if here.isEmpty then return []
    return here ++ (← blockBreaks indent fuel)

/-- What a block consists of: its text, the last line end, and the empty lines behind. -/
structure BlockLines where
  text : List Char := []
  lastBreak : List Char := []
  tail : List Char := []

/-- Does the block go on here? -/
def inBlock (indent : Nat) : Scan Bool := do
  let c ← get
  return c.column = indent && !c.rest.isEmpty

/-- Reads the lines of a block behind empty ones. Folding joins lines that start with neither space nor
tab. -/
def blockLines (folding : Bool) (indent : Nat) (empty : List Char) : Nat → Scan BlockLines
  | 0 => return {}
  | fuel + 1 => do
    if !(← inBlock indent) then return { tail := empty }
    let startsSolid := !((← Scan.peek).any isSpace)
    let line ← Scan.takeWhile fun c => !isBreak c
    let lineEnd ← Scan.lineBreak
    let others ← blockBreaks indent ((← get).rest.length + 1)
    if !(← inBlock indent) then
      return { text := empty ++ line, lastBreak := lineEnd, tail := others }
    let joins := folding && lineEnd = ['\n'] && startsSolid && !((← Scan.peek).any isSpace)
    let joint := if !joins then lineEnd else if others.isEmpty then [' '] else []
    let more ← blockLines folding indent others fuel
    return { more with text := empty ++ line ++ joint ++ more.text }

/-- Reads a block scalar from its sign on, in a block of some indentation. -/
def blockScalar (folding : Bool) (outer : Int) : Scan String := do
  Scan.skip 1
  let (chomp, digit) ← blockHeader
  Scan.restOfLine
  let least := max 1 (outer + 1).toNat
  let steps := (← get).rest.length + 1
  let (empty, indent) ← match digit with
    | none => do
      let (empty, widest) ← blockStart 0 steps
      pure (empty, max least widest)
    | some n => do
      let indent := least + n - 1
      pure (← blockBreaks indent steps, indent)
  let lines ← blockLines folding indent empty steps
  return String.ofList <| lines.text ++ match chomp with
    | .strip => []
    | .clip => lines.lastBreak
    | .keep => lines.lastBreak ++ lines.tail

end PolicyGate.Yaml
