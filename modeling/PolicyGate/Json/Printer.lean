import PolicyGate.Value.Text

/-!
# Values as JSON text

All characters outside printable ASCII are escaped by their UTF-16 units. Keys that are numbers, flags
or null are written as texts; a value that JSON has no form for is written as the text it has. A layout
either puts everything on one line or indents each member; it may sort the entries of every mapping.
-/

namespace PolicyGate.Json

/-- Why a value has no JSON text. -/
inductive Failure where
  /-- A key is neither a text nor a number, a flag or null. -/
  | keyKind (kind : String)
  /-- The keys of a mapping that should be sorted have no common order. -/
  | unordered
  /-- A whole number has more than `digitLimit` digits. -/
  | tooManyDigits
deriving DecidableEq, Repr

/-- How the text is laid out. -/
structure Layout where
  /-- Spaces of indentation per level; without it everything stands on one line. -/
  indent : Option Nat
  sortKeys : Bool

/-- Everything on one line, entries in order. -/
def Layout.line : Layout := ⟨none, false⟩

/-- Two spaces per level, entries sorted by key. -/
def Layout.page : Layout := ⟨some 2, true⟩

/-- A UTF-16 unit as an escape. -/
def unitEscape (n : Nat) : String := "\\u" ++ Quoted.hex 4 n

/-- One character of a JSON string. -/
def char (c : Char) : String :=
  let n := c.toNat
  if c == '"' then "\\\""
  else if c == '\\' then "\\\\"
  else if c == '\n' then "\\n"
  else if c == '\r' then "\\r"
  else if c == '\t' then "\\t"
  else if n = 8 then "\\b"
  else if n = 12 then "\\f"
  else if 32 ≤ n ∧ n < 127 then c.toString
  else if n < 0x10000 then unitEscape n
  else unitEscape (0xD800 + (n - 0x10000) / 0x400) ++ unitEscape (0xDC00 + (n - 0x10000) % 0x400)

/-- A JSON string. -/
def string (s : String) : String :=
  "\"" ++ String.join (s.toList.map char) ++ "\""

/-- A whole number. -/
def number (n : Int) : Except Failure String :=
  match Value.intText? n with
  | some s => .ok s
  | none => .error .tooManyDigits

/-- A key, as the text that stands for it. -/
def key : Value → Except Failure String
  | .str s => .ok s
  | .null => .ok "null"
  | .bool b => .ok (if b then "true" else "false")
  | .int n => number n
  | .float x => .ok (x.written .json)
  | v => .error (.keyKind v.kindName)

/-- How two keys of a sorted mapping compare; nothing if they have no common order. -/
def keyLess? : Value → Value → Option Bool
  | .str s, .str t => some (s < t)
  | .day c, .day d => some (c.number < d.number)
  | .moment s, .moment t =>
    if s.zone.isSome == t.zone.isSome then some (s.instant < t.instant) else none
  | .bytes xs, .bytes ys => some (xs < ys)
  | a, b => do
    let x ← numeric? a
    let y ← numeric? b
    match x, y with
    | some (n, d), some (m, e) => return n * e < m * d
    | _, _ => return false
where
  /-- The fraction a number stands for; the inner option is empty for numbers that are not finite. -/
  numeric? : Value → Option (Option (Int × Nat))
    | .bool b => some (some (Value.ofFlag b, 1))
    | .int n => some (some (n, 1))
    | .float x => some x.ratio?
    | _ => none

/-- Are the keys of a mapping comparable with each other? A lone key always is. -/
def comparable (entries : List (Value × α)) : Bool :=
  match entries with
  | [] => true
  | (k, _) :: rest => rest.all fun e => (keyLess? k e.1).isSome

/-- The entries sorted by key. -/
def sortEntries (entries : List (Value × α)) : Except Failure (List (Value × α)) :=
  if comparable entries then
    .ok (entries.mergeSort fun a b => !((keyLess? b.1 a.1).getD false))
  else .error .unordered

/-- The members of a collection between its brackets, `depth` levels deep. -/
def Layout.enclose (layout : Layout) (depth : Nat) (opening closing : String)
    (members : List String) : String :=
  if members.isEmpty then opening ++ closing
  else match layout.indent with
    | none => opening ++ String.intercalate ", " members ++ closing
    | some width =>
      let line (d : Nat) := "\n" ++ String.ofList (List.replicate (width * d) ' ')
      opening ++ line (depth + 1) ++ String.intercalate ("," ++ line (depth + 1)) members
        ++ line depth ++ closing

mutual

/-- A value `depth` levels deep. -/
def value (layout : Layout) (depth : Nat) : Value → Except Failure String
  | .null => .ok "null"
  | .bool b => .ok (if b then "true" else "false")
  | .int n => number n
  | .float x => .ok (x.written .json)
  | .str s => .ok (string s)
  | .list items => do
    let members ← values layout (depth + 1) items
    return layout.enclose depth "[" "]" members
  | .map entries => do
    if layout.sortKeys && !comparable entries then throw .unordered
    let written ← members layout (depth + 1) entries
    let sorted ← if layout.sortKeys then sortEntries written else pure written
    let texts ← sorted.mapM fun (k, text) => do
      let name ← key k
      return string name ++ ": " ++ text
    return layout.enclose depth "\x7b" "\x7d" texts
  | v =>
    match v.text? with
    | some s => .ok (string s)
    | none => .error .tooManyDigits

/-- The elements of a list. -/
def values (layout : Layout) (depth : Nat) : List Value → Except Failure (List String)
  | [] => .ok []
  | v :: rest => do
    let first ← value layout depth v
    let others ← values layout depth rest
    return first :: others

/-- The values of a mapping, each with its key. -/
def members (layout : Layout) (depth : Nat) :
    List (Value × Value) → Except Failure (List (Value × String))
  | [] => .ok []
  | (k, v) :: rest => do
    let first ← value layout depth v
    let others ← members layout depth rest
    return (k, first) :: others

end

/-- The value as JSON text in the given layout. -/
def write (layout : Layout) (v : Value) : Except Failure String := value layout 0 v

end PolicyGate.Json
