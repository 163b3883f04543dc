import PolicyGate.Number.Binary64

/-!
# Values

What a rule document, an action's arguments and a handler's answer are made of. Mappings keep the
order of their entries. Keys are compared like values, so `1`, `1.0` and `true` are one key, and a NaN is a
key that can be found again; a mapping holds no two entries with the same key as long as it is built with
`Value.put`.
-/

namespace PolicyGate

/-- A day of the calendar. -/
structure Day where
  year : Nat
  month : Nat
  day : Nat
deriving DecidableEq, Repr

/-- A day and a time of day. A zone is given by its distance from universal time in seconds. -/
structure Moment where
  day : Day
  hour : Nat
  minute : Nat
  second : Nat
  microsecond : Nat
  zone : Option Int
deriving DecidableEq, Repr

/-- Days from the first of March of year 0 to the given day, in the proleptic calendar. -/
def Day.number (d : Day) : Int :=
  let y : Int := if d.month ≤ 2 then (d.year : Int) - 1 else d.year
  let m : Int := if d.month ≤ 2 then (d.month : Int) + 9 else (d.month : Int) - 3
  365 * y + y / 4 - y / 100 + y / 400 + (153 * m + 2) / 5 + d.day

/-- The time since the first of March of year 0 in microseconds, the zone taken off. -/
def Moment.instant (t : Moment) : Int :=
  ((t.day.number * 86400 + t.hour * 3600 + t.minute * 60 + t.second) - t.zone.getD 0) * 1000000
    + t.microsecond

/-- Two moments are the same when both name the same instant, or both lack a zone and agree. -/
def Moment.same (s t : Moment) : Bool :=
  s.zone.isSome == t.zone.isSome && s.instant == t.instant

/-- A value of a document. -/
inductive Value where
  | null
  | bool (b : Bool)
  | int (n : Int)
  | float (x : Binary64)
  | str (s : String)
  | list (items : List Value)
  | map (entries : List (Value × Value))
  | day (d : Day)
  | moment (t : Moment)
  | bytes (bs : List UInt8)
  | set (members : List Value)
deriving Repr, Inhabited

namespace Value

/-- The numerical value of a flag. -/
def ofFlag (b : Bool) : Int := if b then 1 else 0

mutual

/-- Do two values compare equal? Numbers and flags compare by numerical value, lists element by
element, mappings and sets irrespective of order. -/
def same : Value → Value → Bool
  | .null, .null => true
  | .bool a, .bool b => a == b
  | .bool a, .int n => ofFlag a == n
  | .int n, .bool b => n == ofFlag b
  | .bool a, .float x => x.eqInt (ofFlag a)
  | .float x, .bool b => x.eqInt (ofFlag b)
  | .int m, .int n => m == n
  | .int n, .float x => x.eqInt n
  | .float x, .int n => x.eqInt n
  | .float x, .float y => x.numEq y
  | .str s, .str t => s == t
  | .list xs, .list ys => sameItems xs ys
  | .map xs, .map ys => xs.length == ys.length && entriesWithin xs ys
  | .day c, .day d => c == d
  | .moment s, .moment t => s.same t
  | .bytes xs, .bytes ys => xs == ys
  | .set xs, .set ys => xs.length == ys.length && itemsWithin xs ys
  | _, _ => false

/-- Do two lists agree element by element? -/
def sameItems : List Value → List Value → Bool
  | [], [] => true
  | x :: xs, y :: ys => same x y && sameItems xs ys
  | _, _ => false

/-- Does every element occur in the second list? -/
def itemsWithin : List Value → List Value → Bool
  | [], _ => true
  | x :: xs, ys => ys.any (fun y => same x y) && itemsWithin xs ys

/-- Does every entry occur in the second mapping? -/
def entriesWithin : List (Value × Value) → List (Value × Value) → Bool
  | [], _ => true
  | (k, v) :: rest, ys =>
    (match ys.find? (fun e => same k e.1) with
      | some e => same v e.2
      | none => false) && entriesWithin rest ys

end

/-- Are two values the same key? They are if they compare equal. There is only one NaN among the keys, though it
compares equal to nothing. -/
def sameKey : Value → Value → Bool
  | .float .nan, .float .nan => true
  | a, b => same a b

/-- Under a text nothing but that text is found. -/
@[simp] theorem sameKey_str {k : Value} {s : String} : sameKey k (.str s) = same k (.str s) := by
  unfold sameKey
  split
  · rename_i h
    cases h
  · rfl

/-- The value of the entry with the given key. -/
def get? (entries : List (Value × Value)) (key : Value) : Option Value :=
  (entries.find? fun e => sameKey e.1 key).map (·.2)

/-- Is there an entry with the given key? -/
def hasKey (entries : List (Value × Value)) (key : Value) : Bool :=
  entries.any fun e => sameKey e.1 key

/-- Replaces the value of an entry, which keeps its key and its place, or appends a new entry. -/
def put (entries : List (Value × Value)) (key value : Value) : List (Value × Value) :=
  match entries with
  | [] => [(key, value)]
  | (k, v) :: rest => if sameKey k key then (k, value) :: rest else (k, v) :: put rest key value

/-- The value stored under a text key. -/
def field? (entries : List (Value × Value)) (name : String) : Option Value :=
  get? entries (.str name)

/-- A mapping whose keys are texts. -/
def record (fields : List (String × Value)) : Value :=
  .map (fields.map fun (name, value) => (.str name, value))

/-- The entries of a mapping. -/
def entries? : Value → Option (List (Value × Value))
  | .map entries => some entries
  | _ => none

/-- Is the value a flag? -/
def isFlag : Value → Bool
  | .bool _ => true
  | _ => false

/-- Does the value count as something rather than nothing? Zero, the empty text and empty
collections count as nothing. -/
def isTruthy : Value → Bool
  | .null => false
  | .bool b => b
  | .int n => n != 0
  | .float x => !x.eqInt 0
  | .str s => !s.isEmpty
  | .list items => !items.isEmpty
  | .map entries => !entries.isEmpty
  | .bytes bs => !bs.isEmpty
  | .set members => !members.isEmpty
  | .day _ | .moment _ => true

/-- The name of the value's kind in messages. -/
def kindName : Value → String
  | .null => "NoneType"
  | .bool _ => "bool"
  | .int _ => "int"
  | .float _ => "float"
  | .str _ => "str"
  | .list _ => "list"
  | .map _ => "dict"
  | .day _ => "date"
  | .moment _ => "datetime"
  | .bytes _ => "bytes"
  | .set _ => "set"

end Value
end PolicyGate
