import PolicyGate.Json.Reader
import PolicyGate.Number.Reading
import PolicyGate.Text.Case
import PolicyGate.Text.WholeNumber
import PolicyGate.Yaml.Fault
import PolicyGate.Yaml.Kind

/-!
# Scalars as values

What the text of a scalar stands for when its tag promises a number, a flag, a moment or bytes. The
text need not have the form that suggests the tag: a tag that is written out may stand at any text, and
then either the text is read more loosely or there is a fault.
-/

namespace PolicyGate.Yaml

/-- The value of a digit to bases up to sixteen; a decimal digit may be of any script. -/
def digitValue? (c : Char) : Option Nat :=
  (Text.decimalValue? c).orElse fun _ => Json.hexDigit? c

/-- The letter that marks numbers to a base. -/
def baseMark? : Nat → Option Char
  | 2 => some 'b'
  | 8 => some 'o'
  | 16 => some 'x'
  | _ => none

/-- The digits behind the mark of the base, if it is there. -/
def withoutMark (base : Nat) (cs : List Char) : List Char :=
  match cs with
  | '0' :: c :: digits => if some c.toLower = baseMark? base then digits else cs
  | _ => cs

/-- The characters without the blanks that may stand around a number. -/
def trimBlanks (cs : List Char) : List Char :=
  ((cs.dropWhile Text.isNumberBlank).reverse.dropWhile Text.isNumberBlank).reverse

/-- The whole number to a base that a text writes, with a sign, a mark and blanks around it. -/
def wholeToBase (base : Nat) (cs : List Char) : Except Fault Int :=
  let read (negative : Bool) (cs : List Char) : Option (List Char × Int) :=
    let digits := withoutMark base cs
    if digits.isEmpty then none
    else (digits.foldlM (fun n c => do
      let d ← digitValue? c
      if d < base then some (base * n + d) else none) 0).map fun n =>
        (digits, if negative then -(n : Int) else n)
  match withSign read (trimBlanks cs) with
  | none => .error (.wholeNumber base (String.ofList cs))
  | some (digits, n) =>
    if base = 10 ∧ digitLimit < digits.length then .error (.tooManyDigits digits.length) else .ok n

/-- The characters without underscores. -/
def withoutUnderscores (text : String) : List Char := text.toList.filter (· ≠ '_')

/-- A number of parts to base sixty, the last part first. -/
def sexagesimal : List Int → Int
  | [] => 0
  | part :: parts => part + 60 * sexagesimal parts

/-- The whole number that a scalar stands for. -/
def wholeOfScalar (text : String) : Except Fault Int := do
  let cs := withoutUnderscores text
  let magnitude ← match unsigned cs with
    | [] => throw .emptyNumber
    | ['0'] => pure 0
    | '0' :: 'b' :: digits => wholeToBase 2 digits
    | '0' :: 'x' :: digits => wholeToBase 16 digits
    | '0' :: digits => wholeToBase 8 ('0' :: digits)
    | digits =>
      if digits.contains ':' then do
        let parts ← (Text.splitChars ':' digits).mapM (wholeToBase 10)
        pure (sexagesimal parts.reverse)
      else wholeToBase 10 digits
  return if cs.head? = some '-' then -magnitude else magnitude

/-- The number in decimal notation that a text writes, with blanks around it. -/
def numberOfChars (cs : List Char) : Except Fault Binary64 :=
  let ascii := (trimBlanks cs).map fun c =>
    match Text.decimalValue? c with
    | some d => Char.ofNat (48 + d)
    | none => c
  match Binary64.ofText? ascii with
  | some x => .ok x
  | none => .error (.number (String.ofList cs))

/-- The sum of some parts, each worth sixty times as much as the one before, the first one `weight`. -/
def weigh (total : Binary64) (weight : Nat) : List Binary64 → Binary64
  | [] => total
  | part :: parts => weigh (total.add (part.mulInt weight)) (60 * weight) parts

/-- The number that a scalar stands for. -/
def numberOfScalar (text : String) : Except Fault Binary64 := do
  let cs := (Text.lower (String.ofList (withoutUnderscores text))).toList
  if cs.isEmpty then throw .emptyNumber
  let magnitude ← match unsigned cs with
    | ['.', 'i', 'n', 'f'] => pure (Binary64.inf false)
    | ['.', 'n', 'a', 'n'] => pure Binary64.nan
    | digits =>
      if digits.contains ':' then do
        let parts ← (Text.splitChars ':' digits).mapM numberOfChars
        pure (weigh (.ofInt 0) 1 parts.reverse)
      else numberOfChars digits
  return if cs.head? = some '-' then magnitude.neg else magnitude

/-- The flag that a scalar stands for. -/
def flagOfScalar (text : String) : Except Fault Bool :=
  match flagWords.lookup (Text.lower text) with
  | some b => .ok b
  | none => .error .flag

/-- The number of days of a month. -/
def daysIn (year month : Nat) : Nat :=
  if month = 2 then
    if year % 4 = 0 ∧ (year % 100 ≠ 0 ∨ year % 400 = 0) then 29 else 28
  else if [4, 6, 9, 11].contains month then 30 else 31

/-- A day of the calendar. -/
def dayOf (year month day : Nat) : Except Fault Day :=
  if year = 0 then .error (.calendar (.year year))
  else if month = 0 ∨ 12 < month then .error (.calendar .month)
  else if day = 0 ∨ daysIn year month < day then .error (.calendar .day)
  else .ok ⟨year, month, day⟩

/-- The distance from universal time in seconds. -/
def zoneSeconds (sign : Char) (hours minutes : List Char) : Except Fault Int :=
  let distance : Int := 3600 * asciiNumber hours + 60 * asciiNumber minutes
  let seconds := if sign = '-' then -distance else distance
  if 86400 ≤ distance then .error (.calendar (.zone seconds)) else .ok seconds

/-- The microseconds of a fraction of a second; further digits are cut off. -/
def microseconds (fraction : List Char) : Nat :=
  let digits := fraction.take 6
  asciiNumber digits * Nat.pow 10 (6 - digits.length)

/-- The day or the moment that a scalar stands for. -/
def momentOfScalar (text : String) : Except Fault Value := do
  let some s := Stamp.ofChars? text.toList | throw .moment
  let day := dayOf (asciiNumber s.year) (asciiNumber s.month) (asciiNumber s.day)
  match s.time with
  | none => return .day (← day)
  | some (hour, minute, second, fraction) => do
    let zone ← match s.zone with
      | some (sign, hours, minutes) => some <$> zoneSeconds sign hours minutes
      | none => pure (if s.isUniversal then some 0 else none)
    let day ← day
    if 24 ≤ asciiNumber hour then throw (.calendar .hour)
    if 60 ≤ asciiNumber minute then throw (.calendar .minute)
    if 60 ≤ asciiNumber second then throw (.calendar .second)
    return .moment ⟨day, asciiNumber hour, asciiNumber minute, asciiNumber second,
      microseconds fraction, zone⟩

/-- The six bits that a character of the base 64 alphabet stands for. -/
def sextet? (c : Char) : Option Nat :=
  if c.isUpper then some (c.toNat - 65)
  else if c.isLower then some (c.toNat - 71)
  else if c.isDigit then some (c.toNat + 4)
  else if c = '+' then some 62
  else if c = '/' then some 63
  else none

/-- The bytes of a text in base 64, of which `place` characters of the current four have been read, the
last one with `left` bits to spare, and then `pads` pads. Other characters are passed over; the text
ends with a pad that completes the four. -/
def bytesOfBase64? (place left pads : Nat) : List Char → Option (List UInt8)
  | [] => if place = 0 then some [] else none
  | '=' :: rest =>
    if 2 ≤ place then
      if 4 ≤ place + pads + 1 then some [] else bytesOfBase64? place left (pads + 1) rest
    else bytesOfBase64? place left pads rest
  | c :: rest =>
    match sextet? c with
    | none => bytesOfBase64? place left pads rest
    | some n =>
      match place with
      | 0 => bytesOfBase64? 1 n 0 rest
      | 1 => (bytesOfBase64? 2 (n % 16) 0 rest).map (UInt8.ofNat (left * 4 + n / 16) :: ·)
      | 2 => (bytesOfBase64? 3 (n % 4) 0 rest).map (UInt8.ofNat (left * 16 + n / 4) :: ·)
      | _ => (bytesOfBase64? 0 0 0 rest).map (UInt8.ofNat (left * 64 + n) :: ·)

/-- The bytes that a scalar stands for. -/
def bytesOfScalar (text : String) : Except Fault (List UInt8) :=
  let cs := text.toList
  match if cs.all (·.toNat < 128) then bytesOfBase64? 0 0 0 cs else none with
  | some bytes => .ok bytes
  | none => .error .malformed

end PolicyGate.Yaml
