import PolicyGate.Text.Split

/-!
# What plain scalars mean

A tag in full says what kind of value a node is. A plain scalar without a tag has the tag that its
characters suggest: a number, a flag, a moment, null, or else a text.
-/

namespace PolicyGate.Yaml

/-- What the tags of the format have in common. -/
def standardTag (name : String) : String := "tag:yaml.org,2002:" ++ name

/-- The characters behind an optional sign. -/
def unsigned : List Char → List Char
  | '-' :: rest | '+' :: rest => rest
  | cs => cs

/-- Is the character a digit or an underscore? -/
def isDigitOrUnderscore (c : Char) : Bool := c.isDigit || c == '_'

/-- Is this a digit and then digits and underscores? -/
def isDigitRun : List Char → Bool
  | c :: rest => c.isDigit && rest.all isDigitOrUnderscore
  | [] => false

/-- Is this one digit, or two of which the first is at most five? -/
def isSixtieth : List Char → Bool
  | [c] => c.isDigit
  | [c, d] => '0' ≤ c && c ≤ '5' && d.isDigit
  | _ => false

/-- Is this a digit run and then one or more sixtieths, with colons between them? -/
def isSexagesimal (cs : List Char) : Bool :=
  match Text.splitChars ':' cs with
  | first :: part :: parts => isDigitRun first && (part :: parts).all isSixtieth
  | _ => false

/-- Does the text write a whole number? -/
def writesWhole (cs : List Char) : Bool :=
  match unsigned cs with
  | ['0'] => true
  | '0' :: 'b' :: digits => !digits.isEmpty && digits.all fun c => c == '0' || c == '1' || c == '_'
  | '0' :: 'x' :: digits => !digits.isEmpty && digits.all fun c =>
      isDigitOrUnderscore c || ('a' ≤ c && c ≤ 'f') || ('A' ≤ c && c ≤ 'F')
  | '0' :: digits => digits.all fun c => ('0' ≤ c && c ≤ '7') || c == '_'
  | c :: digits => c.isDigit && (digits.all isDigitOrUnderscore || isSexagesimal (c :: digits))
  | [] => false

/-- Is this nothing or an exponent with a sign? -/
def isExponent : List Char → Bool
  | [] => true
  | e :: sign :: digits =>
    (e == 'e' || e == 'E') && (sign == '-' || sign == '+') && !digits.isEmpty && digits.all Char.isDigit
  | _ => false

/-- Does the text write a number with a point? -/
def writesFraction (cs : List Char) : Bool :=
  let rest := unsigned cs
  let whole := rest.takeWhile (· ≠ '.')
  match rest.dropWhile (· ≠ '.') with
  | [] => false
  | _ :: fraction =>
    let behind := fraction.dropWhile isDigitOrUnderscore
    if !whole.isEmpty then
      isDigitRun whole && isExponent behind || isSexagesimal whole && behind.isEmpty
    else if [".inf", ".Inf", ".INF"].contains (String.ofList rest) then true
    else rest = cs &&
      ([".nan", ".NaN", ".NAN"].contains (String.ofList cs)
        || fraction.head?.any Char.isDigit && isExponent behind)

/-- What is written in a moment: its parts as digits, and how far it is from universal time. -/
structure Stamp where
  year : List Char
  month : List Char
  day : List Char
  /-- Hour, minute, second and the fraction of it, if there is a time of day. -/
  time : Option (List Char × List Char × List Char × List Char)
  /-- The sign, hours and minutes, if they differ from universal time. -/
  zone : Option (Char × List Char × List Char)
  isUniversal : Bool

namespace Stamp

/-- Digits, at least and at most so many, and what follows them. -/
def digits? (least most : Nat) (cs : List Char) : Option (List Char × List Char) :=
  let run := (cs.take most).takeWhile Char.isDigit
  if least ≤ run.length then some (run, cs.drop run.length) else none

/-- What follows a character. -/
def after? (c : Char) : List Char → Option (List Char)
  | d :: rest => if c = d then some rest else none
  | [] => none

/-- What follows the blanks. -/
def skipBlanks (cs : List Char) : List Char := cs.dropWhile fun c => c == ' ' || c == '\t'

/-- The zone at the end of a moment; nothing if something else stands there. -/
def zone? (cs : List Char) : Option (Option (Char × List Char × List Char) × Bool) :=
  match skipBlanks cs with
  | [] => if cs.isEmpty then some (none, false) else none
  | ['Z'] => some (none, true)
  | sign :: rest =>
    if sign = '-' ∨ sign = '+' then do
      let (hours, rest) ← digits? 1 2 rest
      match rest with
      | [] => some (some (sign, hours, []), false)
      | _ => do
        let (minutes, rest) ← digits? 2 2 (← after? ':' rest)
        if rest.isEmpty then some (some (sign, hours, minutes), false) else none
    else none

/-- The moment that a text writes, loosely: a date, and perhaps a time of day and a zone. -/
def ofChars? (cs : List Char) : Option Stamp := do
  let (year, rest) ← digits? 4 4 cs
  let (month, rest) ← digits? 1 2 (← after? '-' rest)
  let (day, rest) ← digits? 1 2 (← after? '-' rest)
  match rest with
  | [] => return ⟨year, month, day, none, none, false⟩
  | c :: more => do
    let rest ← if c = 'T' ∨ c = 't' then some more
      else if c = ' ' ∨ c = '\t' then some (skipBlanks more) else none
    let (hour, rest) ← digits? 1 2 rest
    let (minute, rest) ← digits? 2 2 (← after? ':' rest)
    let (second, rest) ← digits? 2 2 (← after? ':' rest)
    let (fraction, rest) := match rest with
      | '.' :: more => (more.takeWhile Char.isDigit, more.dropWhile Char.isDigit)
      | _ => ([], rest)
    let (zone, isUniversal) ← zone? rest
    return ⟨year, month, day, some (hour, minute, second, fraction), zone, isUniversal⟩

end Stamp

/-- Does the text write a moment? A mere date has two digits for month and day. -/
def writesMoment (cs : List Char) : Bool :=
  match Stamp.ofChars? cs with
  | some s => s.time.isSome || s.month.length == 2 && s.day.length == 2
  | none => false

/-- The words for flags; each may be written small, large, or with a large letter in front. -/
def flagWords : List (String × Bool) :=
  [("yes", true), ("no", false), ("true", true), ("false", false), ("on", true), ("off", false)]

/-- The three spellings of a word. -/
def spellings (word : String) : List String := [word, word.capitalize, word.toUpper]

/-- The tag that the characters of a plain scalar suggest. -/
def suggestedTag (text : String) : String :=
  let cs := text.toList
  standardTag <|
    if (flagWords.flatMap fun w => spellings w.1).contains text then "bool"
    else if writesFraction cs then "float"
    else if writesWhole cs then "int"
    else if text == "<<" then "merge"
    else if text.isEmpty || text == "~" || (spellings "null").contains text then "null"
    else if writesMoment cs then "timestamp"
    else if text == "=" then "value"
    else "str"

end PolicyGate.Yaml
