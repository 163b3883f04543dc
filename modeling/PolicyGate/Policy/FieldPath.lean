import PolicyGate.Value.Text
import PolicyGate.Text.Digit
import PolicyGate.Text.Split

/-!
# Field paths

A dotted path names a place inside an action's arguments. Each segment selects the entry of a mapping
with exactly that text as its key, or the element of a list whose index it writes; anything else makes
the path lead nowhere. The empty path names the arguments themselves.
-/

namespace PolicyGate

/-- Why a segment that consists of digits has no index. -/
inductive IndexError where
  /-- Some character counts as a digit but not as a decimal one. -/
  | notDecimal (segment : String)
  /-- The segment has more digits than a number may have. -/
  | tooManyDigits (count : Nat)
deriving DecidableEq, Repr

/-- The error in words. -/
def IndexError.message : IndexError → String
  | .notDecimal segment =>
    "invalid literal for int() with base 10: " ++ ((Quoted.text segment).take 200).toString
  | .tooManyDigits count => tooManyDigitsMessage (some count)

namespace FieldPath

/-- The segments of a dotted path. -/
def segments (path : String) : List String := Text.splitAt '.' path

/-- Does the segment consist of digits only? -/
def isIndex (segment : String) : Bool :=
  !segment.isEmpty && segment.toList.all Text.isDigitLike

/-- The index that a segment of digits writes. -/
def index (segment : String) : Except IndexError Nat :=
  let decimal := segment.toList.takeWhile Text.isDecimalDigit
  if digitLimit < decimal.length then .error (.tooManyDigits decimal.length)
  else match Text.decimalNumber? segment.toList with
    | some n => .ok n
    | none => .error (.notDecimal segment)

/-- The value that one segment selects, if any. -/
def step (current : Value) (segment : String) : Except IndexError (Option Value) :=
  match current with
  | .map entries => .ok (Value.field? entries segment)
  | .list items =>
    if isIndex segment then (index segment).map fun i => items[i]?
    else .ok none
  | _ => .ok none

/-- The value that a list of segments leads to. -/
def walk (current : Value) : List String → Except IndexError (Option Value)
  | [] => .ok (some current)
  | segment :: rest =>
    match step current segment with
    | .error e => .error e
    | .ok none => .ok none
    | .ok (some next) => walk next rest

/-- The value at a dotted path; nothing if the path leads nowhere. -/
def resolve (args : Value) (path : String) : Except IndexError (Option Value) :=
  if path.isEmpty then .ok (some args) else walk args (segments path)

theorem walk_append (v : Value) (ps qs : List String) :
    walk v (ps ++ qs) =
      match walk v ps with
      | .error e => .error e
      | .ok none => .ok none
      | .ok (some w) => walk w qs := by
  induction ps generalizing v with
  | nil => simp [walk]
  | cons p ps ih =>
    simp only [List.cons_append, walk]
    cases step v p with
    | error e => rfl
    | ok r => cases r with
      | none => rfl
      | some w => exact ih w

end FieldPath
end PolicyGate
