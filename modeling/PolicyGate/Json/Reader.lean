import PolicyGate.Value.Basic

/-!
# Reading JSON text

`Json.read?` accepts one JSON value surrounded by blanks. Whole numbers and numbers with a point or an
exponent stay apart; a repeated key keeps the place of its first entry and the value of its last. The
recursion is bounded by the length of the text: every nested value starts behind a bracket.
-/

namespace PolicyGate.Json

/-- Skips the blanks of JSON text. -/
def skipBlanks (cs : List Char) : List Char :=
  cs.dropWhile fun c => c == ' ' || c == '\n' || c == '\t' || c == '\r'

/-- The rest of the text behind the given characters. -/
def after? : List Char → List Char → Option (List Char)
  | [], cs => some cs
  | e :: expected, c :: cs => if e == c then after? expected cs else none
  | _ :: _, [] => none

/-- The value of a digit to base sixteen. -/
def hexDigit? (c : Char) : Option Nat :=
  if '0' ≤ c ∧ c ≤ '9' then some (c.toNat - 48)
  else if 'a' ≤ c ∧ c ≤ 'f' then some (c.toNat - 87)
  else if 'A' ≤ c ∧ c ≤ 'F' then some (c.toNat - 55)
  else none

/-- A UTF-16 unit of four digits. -/
def unit? : List Char → Option (Nat × List Char)
  | a :: b :: c :: d :: rest => do
    let w ← hexDigit? a
    let x ← hexDigit? b
    let y ← hexDigit? c
    let z ← hexDigit? d
    return (w * 4096 + x * 256 + y * 16 + z, rest)
  | _ => none

/-- The character of an escaped unit; a high unit takes the low unit that follows it. -/
def escaped? (cs : List Char) : Option (Char × List Char) := do
  let (high, rest) ← unit? cs
  if 0xD800 ≤ high ∧ high < 0xDC00 then
    match rest with
    | '\\' :: 'u' :: more =>
      match unit? more with
      | some (low, tail) =>
        if 0xDC00 ≤ low ∧ low < 0xE000 then
          return (Char.ofNat (0x10000 + (high - 0xD800) * 0x400 + (low - 0xDC00)), tail)
        else return ('\ufffd', rest)
      | none => return ('\ufffd', rest)
    | _ => return ('\ufffd', rest)
  else if 0xDC00 ≤ high ∧ high < 0xE000 then return ('\ufffd', rest)
  else return (Char.ofNat high, rest)

/-- The characters up to the closing quote, most recent first, and the text behind it. -/
def string? : Nat → List Char → List Char → Option (String × List Char)
  | 0, _, _ => none
  | _ + 1, _, [] => none
  | fuel + 1, done, c :: cs =>
    if c == '"' then some (String.ofList done.reverse, cs)
    else if c == '\\' then
      match cs with
      | 'n' :: rest => string? fuel ('\n' :: done) rest
      | 't' :: rest => string? fuel ('\t' :: done) rest
      | 'r' :: rest => string? fuel ('\r' :: done) rest
      | 'b' :: rest => string? fuel (Char.ofNat 8 :: done) rest
      | 'f' :: rest => string? fuel (Char.ofNat 12 :: done) rest
      | 'u' :: rest => match escaped? rest with
        | some (d, tail) => string? fuel (d :: done) tail
        | none => none
      | d :: rest => if d == '"' || d == '\\' || d == '/' then string? fuel (d :: done) rest else none
      | [] => none
    else string? fuel (c :: done) cs

/-- The number that ASCII digits write. -/
def digitsValue (cs : List Char) : Nat := cs.foldl (fun n c => 10 * n + (c.toNat - 48)) 0

/-- A number: a sign, digits, and perhaps a fraction and an exponent. -/
def number? (cs : List Char) : Option (Value × List Char) := do
  let (negative, cs) := match cs with
    | '-' :: rest => (true, rest)
    | _ => (false, cs)
  let whole := cs.takeWhile Char.isDigit
  let rest := cs.dropWhile Char.isDigit
  if whole.isEmpty then none
  let (fraction, rest) := match rest with
    | '.' :: more => (more.takeWhile Char.isDigit, more.dropWhile Char.isDigit)
    | _ => ([], rest)
  let (exponent, rest) : Option Int × List Char := match rest with
    | c :: more =>
      if c == 'e' || c == 'E' then
        let (sign, digits) : Int × List Char := match more with
          | '-' :: tail => (-1, tail)
          | '+' :: tail => (1, tail)
          | _ => (1, more)
        (some (sign * digitsValue (digits.takeWhile Char.isDigit)), digits.dropWhile Char.isDigit)
      else (none, rest)
    | [] => (none, rest)
  if fraction.isEmpty && exponent.isNone then
    let n : Int := digitsValue whole
    return (.int (if negative then -n else n), rest)
  else
    let digits := digitsValue (whole ++ fraction)
    return (.float (.ofDecimal negative digits (exponent.getD 0 - fraction.length)), rest)

/-- The words of JSON and what they mean. -/
def words : List (String × Value) :=
  [("null", .null), ("true", .bool true), ("false", .bool false), ("NaN", .float .nan),
   ("Infinity", .float (.inf false)), ("-Infinity", .float (.inf true))]

/-- One of the words at the start of the text. -/
def word? (cs : List Char) : Option (Value × List Char) :=
  words.findSome? fun (w, v) => (after? w.toList cs).map (v, ·)

mutual

/-- A value at the start of the text. -/
def value? : Nat → List Char → Option (Value × List Char)
  | 0, _ => none
  | fuel + 1, cs =>
    match skipBlanks cs with
    | '"' :: rest => (string? (rest.length + 1) [] rest).map fun (s, tail) => (.str s, tail)
    | '[' :: rest =>
      match skipBlanks rest with
      | ']' :: tail => some (.list [], tail)
      | start => (items? fuel [] start).map fun (items, tail) => (.list items, tail)
    | '\x7b' :: rest =>
      match skipBlanks rest with
      | '\x7d' :: tail => some (.map [], tail)
      | start => (entries? fuel [] start).map fun (entries, tail) => (.map entries, tail)
    | start => (word? start).orElse fun _ => number? start

/-- The elements of a list up to its closing bracket, most recent first. -/
def items? : Nat → List Value → List Char → Option (List Value × List Char)
  | 0, _, _ => none
  | fuel + 1, done, cs =>
    match value? fuel cs with
    | none => none
    | some (v, rest) =>
      match skipBlanks rest with
      | ',' :: more => items? fuel (v :: done) more
      | ']' :: tail => some ((v :: done).reverse, tail)
      | _ => none

/-- The entries of a mapping up to its closing brace. -/
def entries? : Nat → List (Value × Value) → List Char → Option (List (Value × Value) × List Char)
  | 0, _, _ => none
  | fuel + 1, done, cs =>
    match skipBlanks cs with
    | '"' :: rest =>
      match string? (rest.length + 1) [] rest with
      | none => none
      | some (name, afterName) =>
        match skipBlanks afterName with
        | ':' :: start =>
          match value? fuel start with
          | none => none
          | some (v, afterValue) =>
            let entries := Value.put done (.str name) v
            match skipBlanks afterValue with
            | ',' :: more => entries? fuel entries more
            | '\x7d' :: tail => some (entries, tail)
            | _ => none
        | _ => none
    | _ => none

end

/-- The value a text stands for, if it is JSON. -/
def read? (text : String) : Option Value := do
  let cs := text.toList
  let (v, rest) ← value? (cs.length + 1) cs
  if (skipBlanks rest).isEmpty then some v else none

end PolicyGate.Json
