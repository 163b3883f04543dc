import PolicyGate.Yaml.Node
import PolicyGate.Yaml.Scalar

/-!
# What nodes mean

A node becomes a value according to its tag. In a mapping, an entry whose key is the merge sign brings
in the entries of another mapping, or of several, in front of its own. Of the faults of a document, the
one counts that is least deep in it, and of those the first.
-/

namespace PolicyGate.Yaml

/-- A result, or a fault and how deep it is. -/
abbrev Outcome (α : Type) := Except (Nat × Fault) α

namespace Outcome

/-- A fault at the place itself. -/
def fault {α : Type} (f : Fault) : Outcome α := .error (0, f)

/-- The outcome as that of something one level deeper. -/
def deeper {α : Type} (a : Outcome α) : Outcome α := a.mapError fun (depth, f) => (depth + 1, f)

/-- Two outcomes; of two faults, the less deep one. -/
def both {α β : Type} (a : Outcome α) (b : Outcome β) : Outcome (α × β) :=
  match a, b with
  | .ok x, .ok y => .ok (x, y)
  | .ok _, .error e => .error e
  | .error e, .ok _ => .error e
  | .error e, .error f => .error (if f.1 < e.1 then f else e)

/-- Outcomes one after the other. -/
def all {α : Type} : List (Outcome α) → Outcome (List α)
  | [] => .ok []
  | a :: rest => (both a (all rest)).map fun (x, xs) => x :: xs

end Outcome

namespace Node

/-- The tag of a node. -/
def tag : Node → String
  | .scalar t _ | .sequence t _ | .mapping t _ => t

/-- The node with another tag. -/
def withTag (t : String) : Node → Node
  | .scalar _ text => .scalar t text
  | .sequence _ items => .sequence t items
  | .mapping _ entries => .mapping t entries

/-- Has the node a tag of the format? -/
def isTagged (n : Node) (name : String) : Bool := n.tag == standardTag name

mutual

/-- How many levels a node has. -/
def height : Node → Nat
  | .scalar _ _ => 1
  | .sequence _ items => itemsHeight items + 1
  | .mapping _ entries => entriesHeight entries + 1

/-- The greatest number of levels of some nodes. -/
def itemsHeight : List Node → Nat
  | [] => 0
  | n :: rest => max n.height (itemsHeight rest)

/-- The greatest number of levels of the nodes in some entries. -/
def entriesHeight : List (Node × Node) → Nat
  | [] => 0
  | (k, v) :: rest => max (max k.height v.height) (entriesHeight rest)

end

/-- The text of a scalar, in at most so many levels. A mapping has the text of the entry whose key is the
value sign. -/
def text? : Nat → Node → Option String
  | _, .scalar _ text => some text
  | 0, _ => none
  | _ + 1, .sequence _ _ => none
  | fuel + 1, .mapping _ entries =>
    match entries.find? fun e => e.1.isTagged "value" with
    | some (_, v) => text? fuel v
    | none => none

/-- The entries of a mapping with those that it merges in front, in at most so many levels. As a key, the
value sign is a text. -/
def merged? : Nat → List (Node × Node) → Option (List (Node × Node))
  | 0, _ => none
  | fuel + 1, entries => do
    let mergedIn ← (entries.filter fun e => e.1.isTagged "merge").mapM fun (_, v) =>
      match v with
      | .mapping _ others => merged? fuel others
      | .sequence _ items => do
        let parts ← items.mapM fun
          | .mapping _ others => merged? fuel others
          | _ => none
        return parts.reverse.flatten
      | .scalar _ _ => none
    let own := entries.filter fun e => !e.1.isTagged "merge"
    return mergedIn.flatten
      ++ own.map fun (k, v) => (if k.isTagged "value" then k.withTag (standardTag "str") else k, v)

/-- The tags of collections. -/
def collectionTags : List String := ["seq", "map", "set", "omap", "pairs"]

/-- A scalar of the kind that its tag names; nothing for other tags. -/
def scalarValue? (name text : String) : Option (Except Fault Value) :=
  match name with
  | "null" => some (.ok .null)
  | "bool" => some ((flagOfScalar text).map .bool)
  | "int" => some ((wholeOfScalar text).map .int)
  | "float" => some ((numberOfScalar text).map .float)
  | "binary" => some ((bytesOfScalar text).map .bytes)
  | "timestamp" => some (momentOfScalar text)
  | "str" => some (.ok (.str text))
  | _ => none

/-- The tags of scalars. -/
def scalarTags : List String := ["null", "bool", "int", "float", "binary", "timestamp", "str"]

/-- The values of the items of a sequence. -/
def itemValues (inner : Node → Outcome Value) : Node → Outcome (List Value)
  | .sequence _ items => .all (items.map inner)
  | _ => .fault .malformed

/-- The values of the entries of a mapping, each key once. Keys must not be collections. -/
def entryValues (inner : Node → Outcome Value) (n : Node) : Outcome (List (Value × Value)) :=
  match n with
  | .mapping _ entries =>
    match merged? n.height entries with
    | none => .fault .malformed
    | some entries =>
      let keyValue (k : Node) : Outcome Value :=
        if collectionTags.any k.isTagged then .fault .malformed else inner k
      (Outcome.all (entries.map fun (k, v) => Outcome.both (keyValue k) (inner v))).map
        fun es => es.foldl (fun done (k, v) => Value.put done k v) []
  | _ => .fault .malformed

/-- The values of a sequence of mappings with a single entry each, as pairs. -/
def pairValues (inner : Node → Outcome Value) : Node → Outcome (List Value)
  | .sequence _ items =>
    .all <| items.map fun
      | .mapping _ [(k, v)] => (Outcome.both (inner k) (inner v)).map fun (a, b) => .list [a, b]
      | _ => .fault .malformed
  | _ => .fault .malformed

/-- The value of a node that is no collection. -/
def scalarValue (n : Node) : Outcome Value :=
  match scalarTags.find? n.isTagged, n.text? n.height with
  | some name, some text =>
    match scalarValue? name text with
    | some (.ok v) => .ok v
    | some (.error f) => .fault f
    | none => .fault .malformed
  | _, _ => .fault .malformed

/-- The value of a node of at most so many levels. -/
def value : Nat → Node → Outcome Value
  | 0, _ => .fault .malformed
  | levels + 1, n =>
    let inner := value levels
    if n.isTagged "seq" then Outcome.deeper ((itemValues inner n).map Value.list)
    else if n.isTagged "map" then Outcome.deeper ((entryValues inner n).map Value.map)
    else if n.isTagged "set" then
      Outcome.deeper ((entryValues inner n).map fun es => Value.set (es.map (·.1)))
    else if n.isTagged "omap" || n.isTagged "pairs" then
      Outcome.deeper ((pairValues inner n).map Value.list)
    else n.scalarValue

/-- The value of a whole document. -/
def toValue (n : Node) : Except Fault Value := (value n.height n).mapError (·.2)

end Node

/-- The value of a text; null for one without a document. -/
def read (cs : List Char) : Except Fault Value := do
  let tokens ← Token.ofChars cs
  match Node.ofTokens? tokens with
  | none => throw .malformed
  | some none => return .null
  | some (some root) => root.toValue

end PolicyGate.Yaml
