import PolicyGate.Document.Shape
import PolicyGate.Value.Basic

/-!
# Unrecognized entries

The entries of a document that no field is named for are kept when it is read. Here they are collected,
record by record, with the path of the record they stand in. They have no effect on what the document
means.
-/

namespace PolicyGate.Shape

/-- The entries of a record that no field is named for. -/
def bag (names : List String) (entries : List (Value × Value)) : List (Value × Value) :=
  entries.filter fun (k, _) =>
    match k with
    | .str s => !names.contains s
    | _ => true

/-- The path of an entry of a mapping. -/
def entryPath (path : String) (key : Value) : String :=
  match key with
  | .str s => path ++ "." ++ s
  | _ => path

mutual

/-- The unrecognized entries of a value of the shape and of everything in it, by path. -/
def unrecognized : Shape → String → Value → List (String × List (Value × Value))
  | .list item, path, .list vs =>
    vs.zipIdx.flatMap fun (v, i) => item.unrecognized (path ++ "[" ++ toString i ++ "]") v
  | .dictionary item, path, .map entries =>
    entries.flatMap fun (k, v) => item.unrecognized (entryPath path k) v
  | .record _ fields, path, .map entries =>
    let own := bag fields.names entries
    (if own.isEmpty then [] else [(path, own)]) ++ fieldsUnrecognized fields path entries
  | .nullable shape, path, v => shape.unrecognized path v
  | .textOr shape, path, v => shape.unrecognized path v
  | _, _, _ => []

/-- The unrecognized entries in the fields of a record. -/
def fieldsUnrecognized : Fields → String → List (Value × Value) → List (String × List (Value × Value))
  | .none, _, _ => []
  | .field name _ shape others, path, entries =>
    (match Value.field? entries name with
      | some v => shape.unrecognized (path ++ "." ++ name) v
      | none => []) ++ fieldsUnrecognized others path entries

end

end PolicyGate.Shape
