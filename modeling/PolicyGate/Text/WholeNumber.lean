import PolicyGate.Text.Blank
import PolicyGate.Text.Digit

/-!
# Whole numbers in free form

A whole number may have blanks around it, a sign in front and single underscores between its digits,
which may be the decimal digits of any script.
-/

namespace PolicyGate.Text

/-- May the character stand around a whole number? Of the ASCII controls only tab to carriage return. -/
def isNumberBlank (c : Char) : Bool :=
  if c.toNat < 128 then c == ' ' || (9 ≤ c.toNat && c.toNat ≤ 13) else isBlank c

/-- The digits of a text in which every underscore stands between two digits. -/
def groupedDigits? : List Char → Option (List Char)
  | [] => none
  | [c] => if isDecimalDigit c then some [c] else none
  | c :: '_' :: rest => if isDecimalDigit c then (groupedDigits? rest).map (c :: ·) else none
  | c :: rest => if isDecimalDigit c then (groupedDigits? rest).map (c :: ·) else none

/-- The sign and the digits of a whole number. -/
def signedDigits? (cs : List Char) : Option (Bool × List Char) :=
  let inner := ((cs.dropWhile isNumberBlank).reverse.dropWhile isNumberBlank).reverse
  match inner with
  | '-' :: rest => (groupedDigits? rest).map (true, ·)
  | '+' :: rest => (groupedDigits? rest).map (false, ·)
  | rest => (groupedDigits? rest).map (false, ·)

/-- The whole number that the text writes; nothing if it writes none. -/
def wholeNumber? (cs : List Char) : Option Int := do
  let (negative, digits) ← signedDigits? cs
  let magnitude ← decimalNumber? digits
  return if negative then -(magnitude : Int) else magnitude

end PolicyGate.Text
