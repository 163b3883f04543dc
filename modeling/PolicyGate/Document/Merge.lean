import PolicyGate.Value.Text

/-!
# Merging documents

A later document is laid over an earlier one. Mappings are merged key by key, a list or a scalar of the
later document replaces what the earlier one has, and null leaves it alone. A list may only replace a
list, null or nothing. The path to each entry is written down on the way, for the report of a conflict.
-/

namespace PolicyGate

/-- A list was laid over something that is neither a list nor null. -/
structure MergeConflict where
  /-- The keys that lead to the place, joined by dots. -/
  keyPath : String
  /-- What kind of value the earlier document has there. -/
  existingKind : String
deriving DecidableEq, Repr

/-- The conflict in words. -/
def MergeConflict.message (c : MergeConflict) : String :=
  "Cannot merge a list into " ++ c.existingKind ++ " at '" ++ c.keyPath ++ "'"

/-- Why two documents cannot be merged. -/
inductive MergeError where
  | conflict (cause : MergeConflict)
  /-- A whole number in a key is too long to be written. -/
  | tooManyDigits
deriving DecidableEq, Repr

namespace Document

/-- The path of a key below the given path; the empty path is the root. -/
def childPath (path : String) (key : Value) : Except MergeError String :=
  match key.text? with
  | none => .error .tooManyDigits
  | some name => .ok (if path.isEmpty then name else path ++ "." ++ name)

/-- The path as it is reported. -/
def shownPath (path : String) : String :=
  if path.isEmpty then "<root>" else path

mutual

/-- Lays the second value over the first, at the given path. -/
def mergeAt (base : Value) (path : String) : Value → Except MergeError Value
  | .null => .ok base
  | .map later =>
    match base with
    | .map entries => (mergeEntries entries path later).map .map
    | _ => .ok (.map later)
  | .list items =>
    match base with
    | .null | .list _ => .ok (.list items)
    | other => .error (.conflict ⟨shownPath path, other.kindName⟩)
  | v => .ok v

/-- Lays the entries over a mapping, one after the other. -/
def mergeEntries (entries : List (Value × Value)) (path : String) :
    List (Value × Value) → Except MergeError (List (Value × Value))
  | [] => .ok entries
  | (key, value) :: rest => do
    let child ← childPath path key
    let merged ← mergeAt ((Value.get? entries key).getD .null) child value
    mergeEntries (Value.put entries key merged) path rest

end

/-- The second value laid over the first. -/
def merge (base later : Value) : Except MergeError Value := mergeAt base "" later

/-- All documents laid over each other, from the empty mapping on. -/
def mergeAll (documents : List Value) : Except MergeError Value :=
  documents.foldlM merge (.map [])

end Document
end PolicyGate
