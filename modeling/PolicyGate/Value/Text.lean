import PolicyGate.Value.Basic
import PolicyGate.Value.Quoted

/-!
# Values as text

`Value.literal` writes a value so that its kind can be read off (texts in quotes), `Value.text` writes a
text as itself and everything else as its literal. Both give nothing when the value holds a whole number
of more than `digitLimit` digits.
-/

namespace PolicyGate

/-- The date as `year-month-day`. -/
def Day.text (d : Day) : String :=
  padLeft 4 (Nat.repr d.year) ++ "-" ++ padLeft 2 (Nat.repr d.month) ++ "-" ++ padLeft 2 (Nat.repr d.day)

/-- A distance from universal time as hours and minutes, with seconds if there are any. -/
def zoneText (seconds : Int) : String :=
  let n := seconds.natAbs
  (if seconds < 0 then "-" else "+") ++ padLeft 2 (Nat.repr (n / 3600)) ++ ":"
    ++ padLeft 2 (Nat.repr (n / 60 % 60))
    ++ (if n % 60 = 0 then "" else ":" ++ padLeft 2 (Nat.repr (n % 60)))

/-- The date, the time of day and, if it has one, the zone. -/
def Moment.text (t : Moment) : String :=
  t.day.text ++ " " ++ padLeft 2 (Nat.repr t.hour) ++ ":" ++ padLeft 2 (Nat.repr t.minute) ++ ":"
    ++ padLeft 2 (Nat.repr t.second)
    ++ (if t.microsecond = 0 then "" else "." ++ padLeft 6 (Nat.repr t.microsecond))
    ++ (match t.zone with
      | some seconds => zoneText seconds
      | none => "")

/-- A duration of whole seconds as a literal. -/
def durationLiteral (seconds : Int) : String :=
  let days := seconds / 86400
  let rest := seconds % 86400
  let parts := (if days = 0 then [] else ["days=" ++ decimalText days])
    ++ (if rest = 0 then [] else ["seconds=" ++ decimalText rest])
  "datetime.timedelta(" ++ (if parts.isEmpty then "0" else String.intercalate ", " parts) ++ ")"

/-- The date as a literal. -/
def Day.literal (d : Day) : String :=
  "datetime.date(" ++ String.intercalate ", " (([d.year, d.month, d.day]).map Nat.repr) ++ ")"

/-- The moment as a literal; seconds and their fraction are left out when they are zero. -/
def Moment.literal (t : Moment) : String :=
  let always := [t.day.year, t.day.month, t.day.day, t.hour, t.minute]
  let fine := if t.microsecond ≠ 0 then [t.second, t.microsecond]
    else if t.second ≠ 0 then [t.second] else []
  let zone := match t.zone with
    | some 0 => ["tzinfo=datetime.timezone.utc"]
    | some seconds => ["tzinfo=datetime.timezone(" ++ durationLiteral seconds ++ ")"]
    | none => []
  "datetime.datetime(" ++ String.intercalate ", " ((always ++ fine).map Nat.repr ++ zone) ++ ")"

namespace Value

/-- The decimal text of a whole number that is not too long. -/
def intText? (n : Int) : Option String :=
  if exceedsDigitLimit n then none else some (decimalText n)

mutual

/-- The value as a literal. -/
def literal? : Value → Option String
  | .null => some "None"
  | .bool b => some (if b then "True" else "False")
  | .int n => intText? n
  | .float x => some x.text
  | .str s => some (Quoted.text s)
  | .list items => do
    let parts ← literals? items
    return "[" ++ String.intercalate ", " parts ++ "]"
  | .map entries => do
    let parts ← entryLiterals? entries
    return "\x7b" ++ String.intercalate ", " parts ++ "\x7d"
  | .day d => some d.literal
  | .moment t => some t.literal
  | .bytes bs => some (Quoted.bytes bs)
  | .set members => do
    let parts ← literals? members
    return if parts.isEmpty then "set()" else "\x7b" ++ String.intercalate ", " parts ++ "\x7d"

/-- The literals of a list of values. -/
def literals? : List Value → Option (List String)
  | [] => some []
  | v :: rest => do
    let first ← literal? v
    let others ← literals? rest
    return first :: others

/-- The literals of the entries of a mapping. -/
def entryLiterals? : List (Value × Value) → Option (List String)
  | [] => some []
  | (k, v) :: rest => do
    let key ← literal? k
    let value ← literal? v
    let others ← entryLiterals? rest
    return (key ++ ": " ++ value) :: others

end

/-- The value as text. -/
def text? : Value → Option String
  | .str s => some s
  | .day d => some d.text
  | .moment t => some t.text
  | v => literal? v

end Value
end PolicyGate
