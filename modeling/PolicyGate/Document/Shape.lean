/-!
# Shapes of documents

A shape says what may stand at a place of a rule document. Documents are looked at in two ways with the
same shapes: leniently, to find out what a document means, and strictly, to find out where it strays
from the shape. A record has named fields, which may be required, and takes any further entries.
-/

namespace PolicyGate

mutual

/-- What may stand at a place. -/
inductive Shape where
  | anything
  | text
  | flag
  | whole
  /-- One of the given words. -/
  | word (allowed : List String)
  /-- One of the given version numbers, as a text or as a number that is rounded to one place. -/
  | version (allowed : List String)
  | list (item : Shape)
  /-- A mapping from texts to values of one shape. -/
  | dictionary (item : Shape)
  /-- A mapping with named fields. The name of the record is used in messages. -/
  | record (name : String) (fields : Fields)
  /-- Null or a value of the shape. -/
  | nullable (shape : Shape)
  /-- A text or a value of the shape. -/
  | textOr (shape : Shape)

/-- The fields of a record, in order. -/
inductive Fields where
  | none
  | field (name : String) (required : Bool) (shape : Shape) (others : Fields)

end

namespace Fields

/-- The names of the fields. -/
def names : Fields → List String
  | .none => []
  | .field name _ _ others => name :: others.names

/-- Fields one after the other. -/
def append : Fields → Fields → Fields
  | .none, gs => gs
  | .field name required shape others, gs => .field name required shape (others.append gs)

end Fields

/-- The name of a record's shape; other shapes have none. -/
def Shape.recordName : Shape → String
  | .record name _ => name
  | _ => ""

end PolicyGate
