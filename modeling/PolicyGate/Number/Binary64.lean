/-!
# Numbers of the 64-bit binary format

A finite number is a sign, a significand and a power of two, so it *is* a rational number and every
question about it is answered in whole numbers. Arithmetic is exact first and rounded once, by
`Binary64.ofRatio`: to the nearest representable value, a tie to the even significand, and to an
infinity beyond the largest finite value.
-/

namespace PolicyGate

/-- A number of the 64-bit binary format. The value of `finite negative m e` is `± m * 2 ^ e`. -/
inductive Binary64 where
  | nan
  | inf (negative : Bool)
  | finite (negative : Bool) (significand : Nat) (exponent : Int)
deriving DecidableEq, Repr, Inhabited

/-- The quotient rounded to the nearest whole number, a half to the even neighbour. -/
def roundDiv (num den : Nat) : Nat :=
  let q := num / den
  let r := num % den
  if 2 * r < den then q
  else if den < 2 * r then q + 1
  else if q % 2 = 0 then q else q + 1

theorem roundDiv_one (num : Nat) : roundDiv num 1 = num := by
  simp [roundDiv, Nat.mod_one]

namespace Binary64

/-- The significand of a finite number is below `2 ^ precision`. -/
def precision : Nat := 53

/-- The power of two of the smallest positive number. -/
def minExponent : Int := -1074

/-- The power of two of the largest finite numbers. -/
def maxExponent : Int := 971

/-- `num / (den * 2 ^ e)` as a fraction of whole numbers. -/
def scaledRatio (num den : Nat) (e : Int) : Nat × Nat :=
  if 0 ≤ e then (num, den * Nat.pow 2 e.toNat) else (num * Nat.pow 2 (-e).toNat, den)

/-- The exponent that leaves a quotient of `precision` bits, or the smallest one there is. -/
def exponentFor (num den : Nat) : Int :=
  let start : Int := (num.log2 : Int) - (den.log2 : Int) - precision
  let (n, d) := scaledRatio num den start
  max minExponent (if n / d < Nat.pow 2 precision then start else start + 1)

/-- The representable number nearest to `± num / den`. -/
def ofRatio (negative : Bool) (num den : Nat) : Binary64 :=
  if num = 0 then .finite negative 0 minExponent
  else
    let e := exponentFor num den
    let (n, d) := scaledRatio num den e
    let m := roundDiv n d
    let (m, e) := if m = Nat.pow 2 precision then (Nat.pow 2 (precision - 1), e + 1) else (m, e)
    if maxExponent < e then .inf negative else .finite negative m e

/-- The representable number nearest to a whole number. -/
def ofInt (n : Int) : Binary64 := ofRatio (n < 0) n.natAbs 1

/-- The representable number nearest to `± digits * 10 ^ exponent`. An exponent far outside the
range of the format is answered without computing the power. -/
def ofDecimal (negative : Bool) (digits : Nat) (exponent : Int) : Binary64 :=
  if digits = 0 then .finite negative 0 minExponent
  else if 400 < exponent then .inf negative
  else if exponent < -(400 + (digits.log2 : Int)) then .finite negative 0 minExponent
  else if 0 ≤ exponent then ofRatio negative (digits * Nat.pow 10 exponent.toNat) 1
  else ofRatio negative digits (Nat.pow 10 (-exponent).toNat)

/-- The magnitude `m * 2 ^ e` as a fraction. -/
def magnitude (m : Nat) (e : Int) : Nat × Nat :=
  if 0 ≤ e then (m * Nat.pow 2 e.toNat, 1) else (m, Nat.pow 2 (-e).toNat)

/-- The exact value of a finite number, as numerator and positive denominator. -/
def ratio? : Binary64 → Option (Int × Nat)
  | .finite negative m e =>
    let (n, d) := magnitude m e
    some (if negative then -(n : Int) else n, d)
  | _ => none

/-- Numerical equality: the two zeros are equal, and nothing equals a NaN. -/
def numEq : Binary64 → Binary64 → Bool
  | .inf a, .inf b => a == b
  | x, y =>
    match x.ratio?, y.ratio? with
    | some (a, b), some (c, d) => a * d == c * b
    | _, _ => false

/-- Does the number equal the whole number `n`? -/
def eqInt (x : Binary64) (n : Int) : Bool :=
  match x.ratio? with
  | some (a, b) => a == n * b
  | none => false

/-- The whole number that a finite number without fractional part stands for. -/
def toInt? (x : Binary64) : Option Int :=
  match x.ratio? with
  | some (a, b) => if a % b = 0 then some (a / b) else none
  | none => none

/-- Is the number finite? -/
def isFinite : Binary64 → Bool
  | .finite .. => true
  | _ => false

/-- Is the number at most zero? A NaN is not. -/
def nonpositive : Binary64 → Bool
  | .nan => false
  | .inf negative => negative
  | .finite negative m _ => negative || m == 0

/-- The opposite number. -/
def neg : Binary64 → Binary64
  | .nan => .nan
  | .inf negative => .inf !negative
  | .finite negative m e => .finite (!negative) m e

/-- The sum, rounded once. A sum of zero is positive unless both summands are negative zeros. -/
def add : Binary64 → Binary64 → Binary64
  | .nan, _ => .nan
  | _, .nan => .nan
  | .inf a, .inf b => if a == b then .inf a else .nan
  | .inf a, _ => .inf a
  | _, .inf b => .inf b
  | .finite s m e, .finite t n f =>
    let low := min e f
    let a : Int := (m * Nat.pow 2 (e - low).toNat : Nat)
    let b : Int := (n * Nat.pow 2 (f - low).toNat : Nat)
    let sum := (if s then -a else a) + (if t then -b else b)
    let (num, den) := magnitude sum.natAbs low
    ofRatio (if sum = 0 then s && t else sum < 0) num den

/-- The product with a whole number, the factor itself rounded first. -/
def mulInt (x : Binary64) (k : Nat) : Binary64 :=
  match x, ofInt k with
  | .finite s m e, .finite _ n f =>
    let (num, den) := magnitude (m * n) (e + f)
    ofRatio s num den
  | .inf s, .finite _ n _ => if n = 0 then .nan else .inf s
  | .finite s m _, .inf _ => if m = 0 then .nan else .inf s
  | .inf s, .inf _ => .inf s
  | _, _ => .nan

end Binary64
end PolicyGate
