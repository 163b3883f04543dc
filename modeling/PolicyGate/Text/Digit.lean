import PolicyGate.Text.Ranges

/-!
# Decimal digits

The decimal digits of every script stand in runs of ten, zero first. Some further characters, such as
superscripts and circled numbers, count as digits without being usable in a decimal number.
-/

namespace PolicyGate.Text

/-- The code points of the zeros; each is followed by the digits one to nine. -/
def zeroDigits : List Nat :=
  [48, 1632, 1776, 1984, 2406, 2534, 2662, 2790, 2918, 3046, 3174, 3302, 3430, 3558, 3664, 3792,
   3872, 4160, 4240, 6112, 6160, 6470, 6608, 6784, 6800, 6992, 7088, 7232, 7248, 42528, 43216,
   43264, 43472, 43504, 43600, 44016, 65296, 66720, 68912, 69734, 69872, 69942, 70096, 70384,
   70736, 70864, 71248, 71360, 71472, 71904, 72016, 72784, 73040, 73120, 92768, 92864, 93008,
   120782, 120792, 120802, 120812, 120822, 123200, 123632, 125264, 130032]

/-- The value of a decimal digit of any script. -/
def decimalValue? (c : Char) : Option Nat :=
  if c.toNat < 128 then if c.isDigit then some (c.toNat - 48) else none
  else (zeroDigits.find? fun z => z ≤ c.toNat && c.toNat < z + 10).map (c.toNat - ·)

/-- Is the character a decimal digit? -/
def isDecimalDigit (c : Char) : Bool := (decimalValue? c).isSome

/-- Characters that count as digits but have no place in a decimal number. -/
def otherDigitRanges : List (Nat × Nat) :=
  [(178, 179), (185, 185), (4969, 4977), (6618, 6618), (8304, 8304), (8308, 8313), (8320, 8329),
   (9312, 9320), (9332, 9340), (9352, 9360), (9450, 9450), (9461, 9469), (9471, 9471),
   (10102, 10110), (10112, 10120), (10122, 10130), (68160, 68163), (69216, 69224),
   (69714, 69722), (127232, 127242)]

/-- Is the character a digit of any kind? -/
def isDigitLike (c : Char) : Bool :=
  isDecimalDigit c || inRanges otherDigitRanges c.toNat

/-- The number written by decimal digits; nothing if some character is no decimal digit. -/
def decimalNumber? (cs : List Char) : Option Nat :=
  cs.foldl (fun acc c => acc.bind fun n => (decimalValue? c).map (10 * n + ·)) (some 0)

end PolicyGate.Text
