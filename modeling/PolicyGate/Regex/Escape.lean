/-!
# Quoting for regular expressions

The expression that matches exactly a given text: every character with a meaning of its own, and every
ASCII blank, gets a backslash in front.
-/

namespace PolicyGate.Regex

/-- The characters that need a backslash to stand for themselves. -/
def specialChars : List Char :=
  ['(', ')', '[', ']', '\x7b', '\x7d', '?', '*', '+', '-', '|', '^', '$', '\\', '.', '&', '~', '#',
   ' ', '\t', '\n', '\r', '\x0b', '\x0c']

/-- The characters of an expression that matches the given ones. -/
def escapeChars (cs : List Char) : List Char :=
  cs.flatMap fun c => if specialChars.contains c then ['\\', c] else [c]

/-- An expression that matches exactly the given text. -/
def escape (s : String) : String := String.ofList (escapeChars s.toList)

end PolicyGate.Regex
