import PolicyGate.Document.Shape
import PolicyGate.Value.Coercion

/-!
# Lenient reading

Reading gives a value of exactly the shape: coerced where that is possible, with the fields of each
record in their order, and with the entries that no field is named for behind them. A value that cannot
be read is reported with all that is wrong with it, each complaint at its place.
-/

namespace PolicyGate

/-- What is wrong at a place of a document. -/
structure Complaint where
  place : List String
  message : String
deriving DecidableEq, Repr

/-- The complaint in words. -/
def Complaint.text (c : Complaint) : String :=
  let place := String.intercalate "." c.place
  if place.isEmpty then c.message else "$." ++ place ++ ": " ++ c.message

/-- What reading a value comes to. -/
inductive Reading (α : Type) where
  | value (a : α)
  | faulty (complaints : List Complaint)

/-- A whole number stands for a version and is too large for any binary number. -/
structure VersionTooLarge where
deriving DecidableEq, Repr

namespace Reading

/-- A reading with one complaint at the place itself. -/
def refused {α : Type} (message : String) : Reading α := .faulty [⟨[], message⟩]

/-- The complaints of a reading. -/
def complaints {α : Type} : Reading α → List Complaint
  | .value _ => []
  | .faulty cs => cs

/-- The value of a reading, if there is one. -/
def value? {α : Type} : Reading α → Option α
  | .value a => some a
  | .faulty _ => none

/-- The reading as that of a value at a place inside another one. -/
def within {α : Type} (step : String) : Reading α → Reading α
  | .value a => .value a
  | .faulty cs => .faulty (cs.map fun c => { c with place := step :: c.place })

/-- Changes the value that was read. -/
def map {α β : Type} (f : α → β) : Reading α → Reading β
  | .value a => .value (f a)
  | .faulty cs => .faulty cs

/-- A coercion as a reading. -/
def ofCoercion {α : Type} : Except String α → Reading α
  | .ok a => .value a
  | .error message => refused message

/-- Two readings; the complaints of both if either is faulty. -/
def both {α β : Type} (a : Reading α) (b : Reading β) : Reading (α × β) :=
  match a, b with
  | .value x, .value y => .value (x, y)
  | a, b => .faulty (a.complaints ++ b.complaints)

/-- Readings one after the other; all complaints if any is faulty. -/
def all {α : Type} : List (Reading α) → Reading (List α)
  | [] => .value []
  | a :: rest => (both a (all rest)).map fun (x, xs) => x :: xs

end Reading

namespace Shape

/-- The words as alternatives. -/
def alternatives : List String → String
  | [] => ""
  | [w] => Quoted.text w
  | [v, w] => Quoted.text v ++ " or " ++ Quoted.text w
  | w :: ws => Quoted.text w ++ ", " ++ alternatives ws

/-- One of the given words. -/
def readWord (allowed : List String) (v : Value) : Reading Value :=
  match v with
  | .str s =>
    if allowed.contains s then .value v else .refused ("Input should be " ++ alternatives allowed)
  | _ => .refused ("Input should be " ++ alternatives allowed)

/-- The text of a number that stands for a version: the nearest one with one place. -/
def versionText (v : Value) : Except VersionTooLarge Value :=
  match v with
  | .int n =>
    match Binary64.ofInt n with
    | .inf _ => .error {}
    | x => .ok (.str (x.fixed 1))
  | .float x => .ok (.str (x.fixed 1))
  | v => .ok v

/-- The key of an entry as a step of a place. -/
def keyStep (key : Value) : String :=
  match key with
  | .str s => s
  | .bool b => if b then "1" else "0"
  | key => key.literal?.getD ""

/-- The entries that no field is named for. All of their keys must be texts. -/
def readFurther (names : List String) (entries : List (Value × Value)) :
    Reading (List (Value × Value)) :=
  .all <| entries.filterMap fun (k, v) =>
    match k with
    | .str s => if names.contains s then none else some (.value (k, v))
    | k => some (.faulty [⟨[keyStep k], "Keys should be strings"⟩])

mutual

/-- Reads a value of the shape. -/
def read : Shape → Value → Except VersionTooLarge (Reading Value)
  | .anything, v => .ok (.value v)
  | .text, v => .ok ((Reading.ofCoercion v.asText).map .str)
  | .flag, v => .ok ((Reading.ofCoercion v.asFlag).map .bool)
  | .whole, v => .ok ((Reading.ofCoercion v.asWhole).map .int)
  | .word allowed, v => .ok (readWord allowed v)
  | .version allowed, v => return readWord allowed (← versionText v)
  | .list item, v =>
    let readItems (vs : List Value) : Except VersionTooLarge (Reading Value) := do
      let items ← vs.mapM fun v => item.read v
      return (Reading.all (items.zipIdx.map fun (r, i) => r.within (toString i))).map .list
    match v with
    | .list vs | .set vs => readItems vs
    | _ => .ok (.refused "Input should be a valid list")
  | .dictionary item, v =>
    match v with
    | .map entries => do
      let items ← entries.mapM fun (k, v) => do
        let key := (Reading.ofCoercion k.asText).map Value.str
        let value ← item.read v
        return ((key.within "[key]").both value).within (keyStep k)
      return (Reading.all items).map fun es =>
        .map (es.foldl (fun done (k, v) => Value.put done k v) [])
    | _ => .ok (.refused "Input should be a valid dictionary")
  | .record name fields, v =>
    match v with
    | .map entries => do
      let known ← readFields fields entries
      return (known.both (readFurther fields.names entries)).map fun (es, fs) => .map (es ++ fs)
    | _ => .ok (.refused ("Input should be a valid dictionary or instance of " ++ name))
  | .nullable shape, v =>
    match v with
    | .null => .ok (.value .null)
    | v => shape.read v
  | .textOr shape, v =>
    match v.asText with
    | .ok s => .ok (.value (.str s))
    | .error message => do
      match ← shape.read v with
      | .value w => return .value w
      | .faulty cs =>
        let asText : Reading Value := (Reading.refused message).within "str"
        let asOther : Reading Value := (Reading.faulty cs).within shape.recordName
        return .faulty (asText.complaints ++ asOther.complaints)

/-- Reads those fields that there are entries for. -/
def readFields : Fields → List (Value × Value) →
    Except VersionTooLarge (Reading (List (Value × Value)))
  | .none, _ => .ok (.value [])
  | .field name required shape others, entries => do
    let first : Reading (List (Value × Value)) ←
      match Value.field? entries name with
      | some v => (shape.read v).map fun r => (r.within name).map fun w => [(Value.str name, w)]
      | none => pure (if required then (Reading.refused "Field required").within name else .value [])
    let rest ← readFields others entries
    return (first.both rest).map fun (es, fs) => es ++ fs

end

end Shape
end PolicyGate
