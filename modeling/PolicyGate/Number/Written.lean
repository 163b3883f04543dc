import PolicyGate.Number.Shortest

/-!
# How numbers are written

Whole numbers are written in decimal as long as they have at most `digitLimit` digits; a longer one
has no text. Binary numbers are written with the fewest digits that read back, laid out by a
`NumberStyle`.
-/

namespace PolicyGate

/-- Whole numbers with more digits than this are refused when they are written or read as text. -/
def digitLimit : Nat := 4300

/-- The decimal text of a whole number. -/
def decimalText (n : Int) : String :=
  if n < 0 then "-" ++ Nat.repr n.natAbs else Nat.repr n.natAbs

/-- The smallest number with more digits than `digitLimit` allows. -/
def digitBound : Nat := Nat.pow 10 digitLimit

/-- Has the number more digits than `digitLimit` allows? -/
def exceedsDigitLimit (n : Int) : Bool := digitBound ≤ n.natAbs

/-- A number is too long, in words; with the count of its digits if it was to be read. -/
def tooManyDigitsMessage (digits : Option Nat) : String :=
  "Exceeds the limit (" ++ toString digitLimit ++ " digits) for integer string conversion"
    ++ (match digits with
      | some count => ": value has " ++ toString count ++ " digits"
      | none => "")
    ++ "; use sys.set_int_max_str_digits() to increase the limit"

/-- The layout of a written binary number. -/
structure NumberStyle where
  /-- The smallest power of ten that is still written positionally. -/
  positionalFrom : Int
  /-- The smallest power of ten that is written with an exponent again. -/
  exponentFrom : Int
  /-- The fewest digits of an exponent. -/
  exponentDigits : Nat
  nan : String
  infinity : String

/-- Positional from `0.0001` up to, not including, `10 ^ 16`; two digits of exponent at least. -/
def NumberStyle.plain : NumberStyle := ⟨-4, 16, 2, "nan", "inf"⟩

/-- The same layout, with the words that JSON text uses for numbers that are not finite. -/
def NumberStyle.json : NumberStyle := { NumberStyle.plain with nan := "NaN", infinity := "Infinity" }

/-- The text padded with zeros on the left. -/
def padLeft (width : Nat) (s : String) : String :=
  String.ofList (List.replicate (width - s.length) '0') ++ s

/-- The digits of a decimal, laid out; a whole value keeps one zero after the point. -/
def NumberStyle.layout (style : NumberStyle) (d : Binary64.Decimal) : String :=
  let digits := Nat.repr d.digits
  let point : Int := d.exponent + digits.length
  let power := point - 1
  if power < style.positionalFrom ∨ style.exponentFrom ≤ power then
    let fraction := (digits.drop 1).toString
    let mantissa := if fraction.isEmpty then digits else (digits.take 1).toString ++ "." ++ fraction
    mantissa ++ "e" ++ (if power < 0 then "-" else "+")
      ++ padLeft style.exponentDigits (Nat.repr power.natAbs)
  else if point ≤ 0 then
    "0." ++ String.ofList (List.replicate (-point).toNat '0') ++ digits
  else if point < digits.length then
    (digits.take point.toNat).toString ++ "." ++ (digits.drop point.toNat).toString
  else
    digits ++ String.ofList (List.replicate (point.toNat - digits.length) '0') ++ ".0"

namespace Binary64

/-- The number as text in the given layout. -/
def written (style : NumberStyle) : Binary64 → String
  | .nan => style.nan
  | .inf negative => (if negative then "-" else "") ++ style.infinity
  | .finite negative m e =>
    (if negative then "-" else "") ++ if m = 0 then "0.0" else style.layout (shortest m e)

/-- The number as plain text. -/
def text (x : Binary64) : String := x.written .plain

/-- The number with exactly `places` digits after the point, the exact value rounded half to even. -/
def fixed (places : Nat) : Binary64 → String
  | .nan => "nan"
  | .inf negative => if negative then "-inf" else "inf"
  | .finite negative m e =>
    let (n, d) := magnitude m e
    let scaled := roundDiv (n * Nat.pow 10 places) d
    let digits := padLeft (places + 1) (Nat.repr scaled)
    let whole := digits.length - places
    (if negative then "-" else "") ++ (digits.take whole).toString
      ++ (if places = 0 then "" else "." ++ (digits.drop whole).toString)

end Binary64
end PolicyGate
