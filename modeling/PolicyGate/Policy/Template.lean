import PolicyGate.Value.Text
import PolicyGate.Text.Blank

/-!
# Templates

A placeholder is a key of ASCII letters, digits and underscores between double braces, with blanks
around the key allowed. Rendering goes over the template once: a placeholder gives way to the text of
the context's value, and what a value contributes is not looked at again. A key that is absent or null
contributes nothing; braces that do not form a placeholder stay.
-/

namespace PolicyGate

/-- What rendering needs to know of the situation: values by name. -/
abbrev Context := List (Value × Value)

/-- Why a text cannot be rendered. -/
inductive RenderError where
  /-- A value of another kind stands where a template should. -/
  | notText
  /-- A value of the context holds a whole number that is too long to be written. -/
  | tooManyDigits
deriving DecidableEq, Repr

namespace Template

/-- May the character stand in a placeholder's key? -/
def isKeyChar (c : Char) : Bool := c.isAlphanum || c == '_'

/-- The key of the placeholder at the start of the text, and the text behind the placeholder. -/
def placeholder? : List Char → Option (String × List Char)
  | '\x7b' :: '\x7b' :: cs =>
    let inner := cs.dropWhile Text.isBlank
    let key := inner.takeWhile isKeyChar
    match (inner.dropWhile isKeyChar).dropWhile Text.isBlank with
    | '\x7d' :: '\x7d' :: rest => if key.isEmpty then none else some (String.ofList key, rest)
    | _ => none
  | _ => none

theorem length_dropWhile_le (p : Char → Bool) (cs : List Char) :
    (cs.dropWhile p).length ≤ cs.length := by
  induction cs with
  | nil => simp
  | cons c cs ih =>
    simp only [List.dropWhile_cons]
    split
    · simp; omega
    · simp

theorem length_of_placeholder? {cs : List Char} {key : String} {rest : List Char}
    (h : placeholder? cs = some (key, rest)) : rest.length < cs.length := by
  unfold placeholder? at h
  split at h
  · rename_i cs
    dsimp only at h
    split at h
    · rename_i tail heq
      split at h
      · simp at h
      · simp only [Option.some.injEq, Prod.mk.injEq] at h
        have h₁ := length_dropWhile_le Text.isBlank cs
        have h₂ := length_dropWhile_le isKeyChar (cs.dropWhile Text.isBlank)
        have h₃ := length_dropWhile_le Text.isBlank ((cs.dropWhile Text.isBlank).dropWhile isKeyChar)
        rw [heq] at h₃
        obtain ⟨_, rfl⟩ := h
        simp only [List.length_cons] at *
        omega
    · simp at h
  · simp at h

/-- What a key contributes. -/
def valueText (context : Context) (key : String) : Except RenderError (List Char) :=
  match Value.field? context key with
  | none | some .null => .ok []
  | some v =>
    match v.text? with
    | some s => .ok s.toList
    | none => .error .tooManyDigits

/-- The characters of a rendered template. -/
def renderChars (context : Context) (cs : List Char) : Except RenderError (List Char) :=
  match _found : placeholder? cs with
  | some (key, rest) => do
    let v ← valueText context key
    let others ← renderChars context rest
    return v ++ others
  | none =>
    match cs with
    | [] => .ok []
    | c :: rest => do
      let others ← renderChars context rest
      return c :: others
termination_by cs.length
decreasing_by
  · exact length_of_placeholder? _found
  · simp

/-- The template with its placeholders filled from the context. -/
def render (context : Context) (template : String) : Except RenderError String :=
  (renderChars context template.toList).map String.ofList

mutual

/-- The value with every text inside it rendered; keys stay as they are. -/
def renderValue (context : Context) : Value → Except RenderError Value
  | .str s => (render context s).map .str
  | .list items => (renderItems context items).map .list
  | .map entries => (renderEntries context entries).map .map
  | v => .ok v

/-- Every element rendered. -/
def renderItems (context : Context) : List Value → Except RenderError (List Value)
  | [] => .ok []
  | v :: rest => do
    let first ← renderValue context v
    let others ← renderItems context rest
    return first :: others

/-- The value of every entry rendered. -/
def renderEntries (context : Context) :
    List (Value × Value) → Except RenderError (List (Value × Value))
  | [] => .ok []
  | (k, v) :: rest => do
    let first ← renderValue context v
    let others ← renderEntries context rest
    return (k, first) :: others

end

end Template
end PolicyGate
