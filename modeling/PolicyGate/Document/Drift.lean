import PolicyGate.Document.Shape
import PolicyGate.Value.Text

/-!
# Drift

The strict look at a document: nothing is coerced, and no record takes an entry that no field is named
for. Every deviation becomes a warning with the path of its place. Where a shape allows alternatives and
none fits, the deviations from the alternatives stand for the whole; those that are not merely about the
kind of value have precedence.
-/

namespace PolicyGate

/-- Why deviations cannot be reported. -/
inductive DriftError where
  /-- A whole number is too long to be written. -/
  | tooManyDigits
  /-- A key on the way has no place in a path. -/
  | keyKind
deriving DecidableEq, Repr

/-- A path, or the reason why it cannot be written. -/
abbrev DriftPath := Except DriftError String

namespace DriftPath

/-- The path of the whole document. -/
def root : DriftPath := .ok "$"

/-- Can a key be written after a dot? A line feed at its end does no harm. -/
def isPlain (key : String) : Bool :=
  let cs := key.toList
  let body := if cs.getLast? = some '\n' then cs.dropLast else cs
  match body with
  | c :: rest => c.isAlpha && rest.all fun d => d.isAlphanum || d == '_'
  | [] => false

/-- A key in quotes, with backslashes before quotes and backslashes. -/
def quotedKey (key : String) : String :=
  "['" ++ String.ofList (key.toList.flatMap fun c =>
    if c = '\\' || c = '\'' then ['\\', c] else [c]) ++ "']"

/-- The path of the entry with a key. -/
def entry (path : DriftPath) (key : Value) : DriftPath := do
  let outer ← path
  match key with
  | .str s => return outer ++ (if isPlain s then "." ++ s else quotedKey s)
  | .bool _ | .int _ =>
    match key.literal? with
    | some s => return outer ++ "[" ++ s ++ "]"
    | none => throw .tooManyDigits
  | _ => throw .keyKind

/-- The path of the element with an index. -/
def element (path : DriftPath) (index : Nat) : DriftPath := path.map (· ++ "[" ++ toString index ++ "]")

end DriftPath

/-- How a value strays from a shape. -/
inductive Deviation where
  /-- The value is of another kind. -/
  | kind (path : DriftPath) (message : String)
  | other (path : DriftPath) (message : String)
  /-- None of several alternatives fits. -/
  | alternatives (members : List Deviation)

namespace Deviation

/-- Is the deviation merely about the kind of value? -/
def isKind : Deviation → Bool
  | .kind _ _ => true
  | _ => false

mutual

/-- The paths and messages that stand for a deviation. -/
def leaves : Deviation → List (DriftPath × String)
  | .kind path message | .other path message => [(path, message)]
  | .alternatives members =>
    leavesOf (members.any fun d => !d.isKind) members

/-- The leaves of several deviations, perhaps without those about kinds. -/
def leavesOf (withoutKinds : Bool) : List Deviation → List (DriftPath × String)
  | [] => []
  | d :: rest =>
    (if withoutKinds && d.isKind then [] else d.leaves) ++ leavesOf withoutKinds rest

end

end Deviation

namespace Shape

/-- The value as it is shown in a message. -/
def shown (v : Value) : Except DriftError String :=
  match v.literal? with
  | some s => .ok s
  | none => .error .tooManyDigits

/-- No deviation if the value is of a kind, else the deviation. -/
def ofKind (kind : String) (holds : Bool) (path : DriftPath) (v : Value) :
    Except DriftError (List Deviation) := do
  if holds then return []
  else return [.kind path ((← shown v) ++ " is not of type '" ++ kind ++ "'")]

/-- Is the value a text? -/
def isText : Value → Bool
  | .str _ => true
  | _ => false

/-- Is the value a whole number, perhaps written as a binary one? -/
def isWhole : Value → Bool
  | .int _ => true
  | .float x => x.toInt?.isSome
  | _ => false

/-- Is the value null? -/
def isNull : Value → Bool
  | .null => true
  | _ => false

/-- Is the value a number? -/
def isNumber : Value → Bool
  | .int _ | .float _ => true
  | _ => false

/-- The value must be one of the given words. -/
def wordDrift (allowed : List String) (path : DriftPath) (v : Value) :
    Except DriftError (List Deviation) := do
  let listed := match v with
    | .str s => allowed.contains s
    | _ => false
  let first ←
    if listed then pure []
    else
      let words := String.intercalate ", " (allowed.map Quoted.text)
      pure [.other path ((← shown v) ++ " is not one of [" ++ words ++ "]")]
  return first ++ (← ofKind "string" (isText v) path v)

/-- Deviations from alternatives that are tried one after the other. -/
def fromAlternatives (v : Value) (attempts : List (Unit → Except DriftError (List Deviation))) :
    Except DriftError (List Deviation) :=
  go [] attempts
where
  /-- The deviations so far, and the alternatives still to be tried. -/
  go (found : List Deviation) :
      List (Unit → Except DriftError (List Deviation)) → Except DriftError (List Deviation)
    | [] => do
      let _ ← shown v
      return [.alternatives found]
    | attempt :: rest => do
      match ← attempt () with
      | [] => return []
      | ds => go (found ++ ds) rest

/-- The keys of a mapping that no field is named for, in the order of their texts. -/
def furtherKeys (names : List String) (entries : List (Value × Value)) :
    Except DriftError (List Value) := do
  let further := (entries.map (·.1)).filter fun k =>
    match k with
    | .str s => !names.contains s
    | _ => true
  let texts ← further.mapM fun k =>
    match k.text? with
    | some s => .ok (s, k)
    | none => .error .tooManyDigits
  return (texts.mergeSort fun a b => !(b.1 < a.1)).map (·.2)

/-- The deviation of a mapping with further entries. -/
def furtherDrift (names : List String) (path : DriftPath) (entries : List (Value × Value)) :
    Except DriftError (List Deviation) := do
  match ← furtherKeys names entries with
  | [] => return []
  | keys =>
    let texts ← keys.mapM shown
    let verb := if keys.length = 1 then "was" else "were"
    return [.other path ("Additional properties are not allowed (" ++ String.intercalate ", " texts
      ++ " " ++ verb ++ " unexpected)")]

mutual

/-- How a value at a path strays from the shape. -/
def drift : Shape → DriftPath → Value → Except DriftError (List Deviation)
  | .anything, _, _ => .ok []
  | .text, path, v => ofKind "string" (isText v) path v
  | .flag, path, v => ofKind "boolean" v.isFlag path v
  | .whole, path, v => ofKind "integer" (isWhole v) path v
  | .word allowed, path, v => wordDrift allowed path v
  | .version allowed, path, v =>
    fromAlternatives v
      [fun _ => wordDrift allowed path v, fun _ => ofKind "number" (isNumber v) path v]
  | .list item, path, v =>
    match v with
    | .list vs => do
      let parts ← vs.zipIdx.mapM fun (v, i) => item.drift (path.element i) v
      return parts.flatten
    | v => ofKind "array" false path v
  | .dictionary item, path, v =>
    match v with
    | .map entries => do
      let parts ← entries.mapM fun (k, v) => item.drift (path.entry k) v
      return parts.flatten
    | v => ofKind "object" false path v
  | .record _ fields, path, v =>
    match v with
    | .map entries => do
      let further ← furtherDrift fields.names path entries
      return further ++ (← fieldsDrift fields path entries)
    | v => ofKind "object" false path v
  | .nullable (.version allowed), path, v =>
    fromAlternatives v
      [fun _ => wordDrift allowed path v, fun _ => ofKind "number" (isNumber v) path v,
        fun _ => ofKind "null" (isNull v) path v]
  | .nullable (.textOr shape), path, v =>
    fromAlternatives v
      [fun _ => ofKind "string" (isText v) path v, fun _ => shape.drift path v,
        fun _ => ofKind "null" (isNull v) path v]
  | .nullable shape, path, v =>
    fromAlternatives v
      [fun _ => shape.drift path v, fun _ => ofKind "null" (isNull v) path v]
  | .textOr shape, path, v =>
    fromAlternatives v [fun _ => ofKind "string" (isText v) path v, fun _ => shape.drift path v]

/-- How the fields of a mapping at a path stray from theirs. -/
def fieldsDrift : Fields → DriftPath → List (Value × Value) → Except DriftError (List Deviation)
  | .none, _, _ => .ok []
  | .field name required shape others, path, entries => do
    let first ← match Value.field? entries name with
      | some v => shape.drift (path.entry (.str name)) v
      | none => pure (if required then
          [.other path (Quoted.text name ++ " is a required property")] else [])
    return first ++ (← fieldsDrift others path entries)

end

/-- The leaves of deviations as texts. -/
def warningTexts (leaves : List (DriftPath × String)) : Except DriftError (List String) :=
  leaves.mapM fun (path, message) => return (← path) ++ ": " ++ message

/-- Texts in order, each once. -/
def sortedOnce (texts : List String) : List String :=
  (texts.mergeSort fun a b => !(b < a)).eraseReps

/-- The warnings for a document that should have the shape, in order and each once. -/
def warnings (shape : Shape) (v : Value) : Except DriftError (List String) := do
  let deviations ← shape.drift DriftPath.root v
  return sortedOnce (← warningTexts (deviations.flatMap Deviation.leaves))

end Shape
end PolicyGate
