import PolicyGate.Json.Reader
import PolicyGate.Yaml.Cursor

/-!
# Quoted scalars

Between single quotes every character stands for itself and two quotes for one. Between double quotes a
backslash starts an escape. The line ends within either are folded, unless they are escaped.
-/

namespace PolicyGate.Yaml

/-- The escapes of a single character. -/
def simpleEscapes : List (Char × Char) :=
  [('0', '\x00'), ('a', '\x07'), ('b', '\x08'), ('t', '\t'), ('\t', '\t'), ('n', '\n'), ('v', '\x0b'),
   ('f', '\x0c'), ('r', '\r'), ('e', '\x1b'), (' ', ' '), ('"', '"'), ('\\', '\\'), ('/', '/'),
   ('N', '\x85'), ('_', '\xa0'), ('L', '\u2028'), ('P', '\u2029')]

/-- The escapes of a code point, with the number of their digits. -/
def codeEscapes : List (Char × Nat) := [('x', 2), ('u', 4), ('U', 8)]

/-- The number that some digits to base sixteen write. -/
def hexNumber? (cs : List Char) : Option Nat :=
  cs.foldlM (fun n c => (Json.hexDigit? c).map (16 * n + ·)) 0

/-- Reads a code point of some digits. -/
def codePoint (digits : Nat) : Scan Nat := do
  let cs := (← get).rest.take digits
  match if cs.length = digits then hexNumber? cs else none with
  | none => Scan.fail
  | some code =>
    if code < 0x110000 then
      Scan.skip digits
      return code
    else throw (.codePoint code)

/-- Reads the other half of a character that is written in two parts. -/
def lowHalf? : Scan (Option Nat) := do
  match (← get).rest with
  | '\\' :: 'u' :: more =>
    match hexNumber? (more.take 4) with
    | some code =>
      if 0xDC00 ≤ code ∧ code < 0xE000 ∧ 4 ≤ more.length then
        Scan.skip 6
        return some code
      else return none
    | none => return none
  | _ => return none

/-- Reads the character of an escape with digits. -/
def codeEscape (digits : Nat) : Scan Char := do
  let code ← codePoint digits
  if 0xD800 ≤ code ∧ code < 0xDC00 then
    match ← lowHalf? with
    | some low => return Char.ofNat (0x10000 + (code - 0xD800) * 0x400 + (low - 0xDC00))
    | none => return '\ufffd'
  else if 0xDC00 ≤ code ∧ code < 0xE000 then return '\ufffd'
  else return Char.ofNat code

/-- Reads the line ends up to the next solid character. No document may end on the way. -/
def quotedBreaks : Nat → Scan (List Char)
  | 0 => return []
  | fuel + 1 => do
    if (← get).atSeparator then Scan.fail
    discard <| Scan.takeWhile isSpace
    let here ← Scan.lineBreak
    if here.isEmpty then return []
    return here ++ (← quotedBreaks fuel)

/-- Reads an escape behind its backslash. -/
def escape : Scan (List Char) := do
  match ← Scan.peek with
  | none => Scan.fail
  | some c =>
    match simpleEscapes.lookup c, codeEscapes.lookup c with
    | some d, _ =>
      Scan.skip 1
      return [d]
    | none, some digits =>
      Scan.skip 1
      return [← codeEscape digits]
    | none, none =>
      if (← Scan.lineBreak).isEmpty then Scan.fail
      quotedBreaks ((← get).rest.length + 1)

/-- Reads solid characters up to a blank, the end of the line or the closing quote. -/
def quotedRun (double : Bool) : Nat → Scan (List Char)
  | 0 => return []
  | fuel + 1 => do
    match (← get).rest with
    | [] => return []
    | c :: rest =>
      if double && c == '\\' then
        Scan.skip 1
        let cs ← escape
        return cs ++ (← quotedRun double fuel)
      else if !double && c == '\'' && rest.head? == some '\'' then
        Scan.skip 2
        return '\'' :: (← quotedRun double fuel)
      else if c == (if double then '"' else '\'') || endsWord (some c) then return []
      else
        Scan.skip 1
        return c :: (← quotedRun double fuel)

/-- Reads blanks and line ends between solid characters. -/
def quotedGap : Scan (List Char) := do
  let blanks ← Scan.takeWhile isSpace
  if (← Scan.peek).isNone then Scan.fail
  let first ← Scan.lineBreak
  if first.isEmpty then return blanks
  return folded first (← quotedBreaks ((← get).rest.length + 1))

/-- Reads the rest of a quoted scalar with its closing quote. -/
def quotedRest (double : Bool) : Nat → Scan (List Char)
  | 0 => Scan.fail
  | fuel + 1 => do
    let run ← quotedRun double ((← get).rest.length + 1)
    if (← Scan.peek) = some (if double then '"' else '\'') then
      Scan.skip 1
      return run
    let gap ← quotedGap
    return run ++ gap ++ (← quotedRest double fuel)

/-- Reads a quoted scalar from its opening quote on. -/
def quotedScalar (double : Bool) : Scan String := do
  Scan.skip 1
  return String.ofList (← quotedRest double ((← get).rest.length + 1))

end PolicyGate.Yaml
