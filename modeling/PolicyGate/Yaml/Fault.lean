import PolicyGate.Number.Written
import PolicyGate.Value.Text

/-!
# Why a text is no document

Most faults are of the form and need no further words: the text is no document. A scalar whose kind
promises a number, a flag or a moment may fail to keep the promise; those faults say what is wrong.
-/

namespace PolicyGate.Yaml

/-- What is wrong with a date or a time of day. -/
inductive CalendarFault where
  | year (n : Nat)
  | month
  | day
  | hour
  | minute
  | second
  /-- The distance from universal time, in seconds, is a whole day or more. -/
  | zone (seconds : Int)
deriving DecidableEq, Repr

/-- The fault in words. -/
def CalendarFault.message : CalendarFault → String
  | .year n => "year " ++ Nat.repr n ++ " is out of range"
  | .month => "month must be in 1..12"
  | .day => "day is out of range for month"
  | .hour => "hour must be in 0..23"
  | .minute => "minute must be in 0..59"
  | .second => "second must be in 0..59"
  | .zone seconds =>
    "offset must be a timedelta strictly between -timedelta(hours=24) and timedelta(hours=24), not "
      ++ durationLiteral seconds ++ "."

/-- Why a text has no value. -/
inductive Fault where
  /-- The text has not the form of a document. -/
  | malformed
  /-- An escape names a code point beyond the last one. -/
  | codePoint (code : Nat)
  /-- A whole number to some base is written wrongly. -/
  | wholeNumber (base : Nat) (text : String)
  /-- A whole number has too many digits. -/
  | tooManyDigits (count : Nat)
  /-- A number is written wrongly. -/
  | number (text : String)
  /-- A number is not written at all. -/
  | emptyNumber
  /-- A flag is neither raised nor lowered. -/
  | flag
  /-- A moment does not look like one. -/
  | moment
  | calendar (what : CalendarFault)
deriving DecidableEq, Repr

/-- Is the code point of an escape too large even for a machine number? -/
def isHugeCode (code : Nat) : Bool := Nat.pow 2 31 ≤ code

/-- The fault in words; most faults have none. -/
def Fault.message : Fault → String
  | .malformed | .emptyNumber | .flag | .moment => ""
  | .codePoint code =>
    if isHugeCode code then "Python int too large to convert to C int"
    else "chr() arg not in range(0x110000)"
  | .wholeNumber base text =>
    "invalid literal for int() with base " ++ Nat.repr base ++ ": "
      ++ ((Quoted.text text).take 200).toString
  | .tooManyDigits count => tooManyDigitsMessage (some count)
  | .number text => "could not convert string to float: " ++ Quoted.text text
  | .calendar what => what.message

end PolicyGate.Yaml
