import PolicyGate.Text.Printable
import PolicyGate.Number.Written

/-!
# Quoted texts

A text is quoted with single quotes, or with double quotes when it holds a single quote and no double
one. The quote and the backslash are escaped by a backslash, and every character that is not printable
is written by its code.
-/

namespace PolicyGate.Quoted

/-- The digits of a number to base sixteen, in small letters and at least `width` of them. -/
def hex (width n : Nat) : String :=
  padLeft width (String.ofList (Nat.toDigits 16 n))

/-- One character inside quotes. -/
def char (quote c : Char) : String :=
  if c == quote || c == '\\' then String.ofList ['\\', c]
  else if c == '\n' then "\\n"
  else if c == '\r' then "\\r"
  else if c == '\t' then "\\t"
  else if Text.isPrintable c then c.toString
  else if c.toNat < 0x100 then "\\x" ++ hex 2 c.toNat
  else if c.toNat < 0x10000 then "\\u" ++ hex 4 c.toNat
  else "\\U" ++ hex 8 c.toNat

/-- The quote that needs the fewest escapes, the single one preferred. -/
def quoteFor (cs : List Char) : Char :=
  if cs.contains '\'' && !cs.contains '"' then '"' else '\''

/-- The text in quotes. -/
def text (s : String) : String :=
  let quote := quoteFor s.toList
  quote.toString ++ String.join (s.toList.map (char quote)) ++ quote.toString

/-- One byte inside quotes; every byte outside printable ASCII is written by its code. -/
def byte (quote : Char) (b : UInt8) : String :=
  let c := Char.ofNat b.toNat
  if b.toNat < 0x80 then char quote c else "\\x" ++ hex 2 b.toNat

/-- A byte string in quotes, marked by a letter. -/
def bytes (bs : List UInt8) : String :=
  let quote := quoteFor (bs.map fun b => Char.ofNat b.toNat)
  "b" ++ quote.toString ++ String.join (bs.map (byte quote)) ++ quote.toString

end PolicyGate.Quoted
