import PolicyGate.Number.Binary64

/-!
# The fewest digits that read back

`Binary64.shortest` chooses the decimal that stands for a binary number: the one with the fewest
digits among all decimals that round to the number, and the nearest of those. For each digit count
only the two decimals next to the exact value have to be tried, in whole-number arithmetic.
-/

namespace PolicyGate
namespace Binary64

/-- A positive decimal `digits * 10 ^ exponent`. -/
structure Decimal where
  digits : Nat
  exponent : Int
deriving DecidableEq, Repr

/-- Moves trailing zeros of the digits into the exponent. -/
def Decimal.normalize (d : Decimal) : Nat → Decimal
  | 0 => d
  | fuel + 1 =>
    if d.digits ≠ 0 ∧ d.digits % 10 = 0 then
      Decimal.normalize ⟨d.digits / 10, d.exponent + 1⟩ fuel
    else d

/-- Is `10 ^ k` at most `num / den`? -/
def powerAtMost (num den : Nat) (k : Int) : Bool :=
  if 0 ≤ k then den * Nat.pow 10 k.toNat ≤ num else den ≤ num * Nat.pow 10 (-k).toNat

/-- The largest `k` with `10 ^ k ≤ num / den`, for a positive fraction. -/
def decimalExponent (num den : Nat) : Int :=
  let guess : Int := (((num.log2 : Int) - (den.log2 : Int)) * 30103) / 100000 - 1
  let above := (List.range 4).filter fun (i : Nat) => powerAtMost num den (guess + (i : Int) + 1)
  guess + above.length

/-- The reals that round to `m * 2 ^ e`, as `low / den`, `high / den` and whether the ends belong. -/
structure RoundingInterval where
  value : Nat
  low : Nat
  high : Nat
  den : Nat
  closed : Bool

/-- The gap below a power of two is half as wide as the gap above it. -/
def roundingInterval (m : Nat) (e : Int) : RoundingInterval :=
  let (n, d) := magnitude 1 (e - 2)
  let below := if m = Nat.pow 2 (precision - 1) ∧ minExponent < e then 1 else 2
  { value := 4 * m * n, low := (4 * m - below) * n, high := (4 * m + 2) * n, den := d
    closed := m % 2 == 0 }

/-- Does the decimal lie in the interval? -/
def RoundingInterval.contains (i : RoundingInterval) (d : Decimal) : Bool :=
  let (num, scale) :=
    if 0 ≤ d.exponent then (d.digits * Nat.pow 10 d.exponent.toNat * i.den, 1)
    else (d.digits * i.den, Nat.pow 10 (-d.exponent).toNat)
  if i.closed then i.low * scale ≤ num && num ≤ i.high * scale
  else i.low * scale < num && num < i.high * scale

/-- The decimals of `count` digits next to the value that lie in the interval, nearest first. -/
def RoundingInterval.candidate? (i : RoundingInterval) (top : Int) (count : Nat) : Option Decimal :=
  let unit : Int := top - count + 1
  let (num, den) :=
    if 0 ≤ unit then (i.value, i.den * Nat.pow 10 unit.toNat)
    else (i.value * Nat.pow 10 (-unit).toNat, i.den)
  let down := num / den
  let nearest := roundDiv num den
  let other := if nearest = down then down + 1 else down
  [nearest, other].findSome? fun digits =>
    if i.contains ⟨digits, unit⟩ then some ⟨digits, unit⟩ else none

/-- The shortest decimal that rounds to the positive number `m * 2 ^ e`. -/
def shortest (m : Nat) (e : Int) : Decimal :=
  let i := roundingInterval m e
  let top := decimalExponent i.value i.den
  match (List.range 17).findSome? fun k => i.candidate? top (k + 1) with
  | some d => d.normalize 20
  | none => ⟨0, 0⟩

end Binary64
end PolicyGate
