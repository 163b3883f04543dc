import PolicyGate.Yaml.Fault

/-!
# Places in a text

A cursor is a place in a text: what follows it, and how far it is from the start of the text and of its
line. Layout is told from columns, so every reader of a part of a text moves a cursor. A byte order mark
takes no column.
-/

namespace PolicyGate.Yaml

/-- Does the character end a line? -/
def isBreak (c : Char) : Bool := c == '\n' || c == '\x85' || c == '\u2028' || c == '\u2029'

/-- Is the character a space or a tab? -/
def isSpace (c : Char) : Bool := c == ' ' || c == '\t'

/-- Does a line end here? -/
def endsLine (next : Option Char) : Bool := next.all isBreak

/-- Does a word end here? -/
def endsWord (next : Option Char) : Bool := next.all fun c => isSpace c || isBreak c

/-- Does a property end here? A tab does not end one. -/
def endsProperty (next : Option Char) : Bool := next.all fun c => c == ' ' || isBreak c

/-- May the character stand in the name of an anchor? -/
def isNameCharacter (c : Char) : Bool := c.isAlphanum || c == '-' || c == '_'

/-- The mark in front of some texts. -/
def byteOrderMark : Char := '\ufeff'

/-- A place in a text. -/
structure Cursor where
  rest : List Char
  index : Nat := 0
  line : Nat := 0
  column : Nat := 0

namespace Cursor

/-- The place behind the next character. -/
def next (c : Cursor) : Cursor :=
  match c.rest with
  | [] => c
  | d :: rest =>
    if isBreak d then { rest, index := c.index + 1, line := c.line + 1 }
    else { rest, index := c.index + 1, line := c.line,
           column := if d = byteOrderMark then c.column else c.column + 1 }

/-- The place behind some characters. -/
def skip : Nat → Cursor → Cursor
  | 0, c => c
  | n + 1, c => skip n c.next

/-- Does a line of three equal marks stand here, which separates documents? -/
def atSeparator (c : Cursor) : Bool :=
  match c.rest with
  | a :: b :: d :: more => a == b && b == d && (a == '-' || a == '.') && endsWord more.head?
  | _ => false

end Cursor

/-- A reader of a part of a text. -/
abbrev Scan := StateT Cursor (Except Fault)

namespace Scan

/-- The text is malformed. -/
def fail {α : Type} : Scan α := throw .malformed

/-- The next character, which stays. -/
def peek : Scan (Option Char) := return (← get).rest.head?

/-- Moves past some characters. -/
def skip (n : Nat) : Scan Unit := modify (Cursor.skip n)

/-- Reads characters as long as they satisfy a condition. -/
def takeWhile (p : Char → Bool) : Scan (List Char) := do
  let taken := (← get).rest.takeWhile p
  skip taken.length
  return taken

/-- Reads the end of a line, if one stands here. Only the separators of lines and paragraphs are kept
as they are. -/
def lineBreak : Scan (List Char) := do
  match ← peek with
  | some c =>
    if isBreak c then
      skip 1
      return [if c = '\x85' then '\n' else c]
    else return []
  | none => return []

/-- Moves past a comment. -/
def comment : Scan Unit := do
  if (← peek) = some '#' then discard <| takeWhile fun c => !isBreak c

/-- Moves past spaces, a comment and the end of the line, of which nothing else may be left. -/
def restOfLine : Scan Unit := do
  discard <| takeWhile (· = ' ')
  comment
  if endsLine (← peek) then discard lineBreak else fail

end Scan

/-- What line ends between two parts of a text come to: a single one becomes a space. -/
def folded (first : List Char) (others : List Char) : List Char :=
  (if first ≠ ['\n'] then first else if others.isEmpty then [' '] else []) ++ others

end PolicyGate.Yaml
