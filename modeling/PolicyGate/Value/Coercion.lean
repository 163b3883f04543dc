import PolicyGate.Number.Reading
import PolicyGate.Text.WholeNumber
import PolicyGate.Value.Text

/-!
# Coercions

Where a text, a flag or a number is expected, some values of other kinds are taken for one: bytes
for the text they encode, the usual words and the numbers zero and one for a flag, numbers without a
fraction and decimal texts for a whole number, decimal texts and flags for any number. Each coercion
leaves a value of the expected kind as it is. A refusal says why.
-/

namespace PolicyGate.Value

/-- The text that bytes encode in UTF-8. -/
def decodeUtf8? (bs : List UInt8) : Option String := String.fromUTF8? ⟨bs.toArray⟩

/-- The value as a text. -/
def asText : Value → Except String String
  | .str s => .ok s
  | .bytes bs =>
    match decodeUtf8? bs with
    | some s => .ok s
    | none => .error "Input should be a valid string, unable to parse raw data as a unicode string"
  | _ => .error "Input should be a valid string"

/-- Words for a raised flag. -/
def onWords : List String := ["1", "t", "y", "on", "yes", "true"]

/-- Words for a lowered flag. -/
def offWords : List String := ["0", "f", "n", "no", "off", "false"]

/-- A word as a flag, irrespective of ASCII case. -/
def flagOfWord? (s : String) : Option Bool :=
  let word := s.toLower
  if onWords.contains word then some true
  else if offWords.contains word then some false
  else none

/-- A number as a flag. -/
def flagOfNumber? (n : Int) : Option Bool :=
  if n = 0 then some false else if n = 1 then some true else none

/-- The value is of a kind that flags are made of, but says neither yes nor no. -/
def unclearFlag : String := "Input should be a valid boolean, unable to interpret input"

/-- The value as a flag. -/
def asFlag : Value → Except String Bool
  | .bool b => .ok b
  | .str s => (flagOfWord? s).elim (.error unclearFlag) .ok
  | .bytes bs => ((decodeUtf8? bs).bind flagOfWord?).elim (.error unclearFlag) .ok
  | .int n =>
    if n.natAbs < Nat.pow 2 1024 then (flagOfNumber? n).elim (.error unclearFlag) .ok
    else .error "Input should be a valid boolean"
  | .float x =>
    match x.toInt? with
    | some n => (flagOfNumber? n).elim (.error unclearFlag) .ok
    | none => .error "Input should be a valid boolean"
  | _ => .error "Input should be a valid boolean"

/-- The value is of a kind that numbers are made of, but the number is too long or too large. -/
def tooLargeNumber : String := "Unable to parse input string as an integer, exceeded maximum size"

/-- A text that writes no whole number. -/
def unclearNumber : String := "Input should be a valid integer, unable to parse string as an integer"

/-- The characters without white space at both ends. -/
def trimNumber (cs : List Char) : List Char :=
  ((cs.dropWhile Text.isNumberBlank).reverse.dropWhile Text.isNumberBlank).reverse

/-- The digits without zeros in front, between which single underscores may stand; the last zero stays
in front of a point, and at the end. Nothing if another character comes first. -/
def dropLeadingZeros? : List Char → Option (List Char)
  | '0' :: rest => go '0' rest
  | c :: rest => if c.isDigit || c = '-' then some (c :: rest) else none
  | [] => none
where
  /-- The digits behind leading zeros, of which `last` is the last character. -/
  go (last : Char) : List Char → Option (List Char)
    | [] => some [last]
    | c :: rest =>
      if c = '0' || c = '_' then go c rest
      else if c.isDigit then some (c :: rest)
      else if c = '.' then some (last :: c :: rest)
      else none

/-- The characters up to a point behind which one or more zeros stand, and nothing else. -/
def dropZeroFraction? (cs : List Char) : Option (List Char) :=
  match cs.dropWhile (· ≠ '.') with
  | [] => some cs
  | _ :: fraction =>
    if !fraction.isEmpty && fraction.all (· = '0') then some (cs.takeWhile (· ≠ '.')) else none

/-- The characters without the underscores, each of which must stand alone between two others. -/
def dropUnderscores? (cs : List Char) : Option (List Char) :=
  let apart := !((cs.zip cs.tail).any fun (a, b) => a = '_' && b = '_')
  if cs.head? ≠ some '_' && cs.getLast? ≠ some '_' && apart then some (cs.filter (· ≠ '_')) else none

/-- A number of ASCII digits, with a dash in front if it is negative. -/
def plainNumber? (cs : List Char) : Option Int :=
  match cs with
  | '-' :: digits =>
    if digits.isEmpty || !digits.all Char.isDigit || (digits.length > 1 && digits.head? = some '0') then
      none
    else (Text.decimalNumber? digits).map fun n => -(n : Int)
  | digits =>
    if digits.isEmpty || !digits.all Char.isDigit then none
    else (Text.decimalNumber? digits).map fun n => (n : Int)

/-- The whole number that a text writes. -/
def wholeOfText (s : String) : Except String Int :=
  let cs := trimNumber s.toList
  let unsigned := if cs.head? = some '+' then cs.tail else cs
  let signs := cs.head? = some '+' && unsigned.head? = some '-'
  let digits? :=
    if signs then none else ((dropLeadingZeros? unsigned).bind dropZeroFraction?).bind dropUnderscores?
  match digits? with
  | none => .error unclearNumber
  | some digits =>
    if digitLimit < digits.length then .error tooLargeNumber
    else (plainNumber? digits).elim (.error unclearNumber) .ok

/-- The value as a whole number. -/
def asWhole : Value → Except String Int
  | .int n => .ok n
  | .bool b => .ok (ofFlag b)
  | .str s => wholeOfText s
  | .bytes bs => (decodeUtf8? bs).elim (.error unclearNumber) wholeOfText
  | .float x =>
    if !x.isFinite then .error "Input should be a finite number"
    else match x.toInt? with
      | some n => if n.natAbs < Nat.pow 2 63 then .ok n else .error tooLargeNumber
      | none => .error "Input should be a valid integer, got a number with a fractional part"
  | _ => .error "Input should be a valid integer"

/-- The number that a text writes. Single underscores may stand between its characters if there are no
blanks around it. -/
def numberOfText (s : String) : Except String Binary64 :=
  let cs := s.toList
  match (Binary64.ofText? (trimNumber cs)).orElse fun _ => (dropUnderscores? cs).bind Binary64.ofText? with
  | some x => .ok x
  | none => .error "Input should be a valid number, unable to parse string as a number"

/-- The value as a number that may have a fraction. -/
def asNumber : Value → Except String Binary64
  | .float x => .ok x
  | .int n =>
    match Binary64.ofInt n with
    | .inf _ => .error "Input should be a valid number"
    | x => .ok x
  | .bool b => .ok (.ofInt (ofFlag b))
  | .str s => numberOfText s
  | _ => .error "Input should be a valid number"

end PolicyGate.Value
