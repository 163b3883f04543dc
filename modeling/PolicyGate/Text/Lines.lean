/-!
# Line ends

A carriage return, alone or before a line feed, ends a line like a line feed does. Texts of files have
line feeds only.
-/

namespace PolicyGate.Text

/-- The characters with a line feed for every end of a line. -/
def unifyLineEnds : List Char → List Char
  | [] => []
  | '\r' :: '\n' :: rest => '\n' :: unifyLineEnds rest
  | '\r' :: rest => '\n' :: unifyLineEnds rest
  | c :: rest => c :: unifyLineEnds rest

/-- The text of a file; nothing if its bytes are no UTF-8. -/
def ofFile? (bytes : List UInt8) : Option (List Char) :=
  (String.fromUTF8? ⟨bytes.toArray⟩).map fun s => unifyLineEnds s.toList

end PolicyGate.Text
