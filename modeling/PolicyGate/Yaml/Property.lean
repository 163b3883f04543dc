import PolicyGate.Json.Reader
import PolicyGate.Yaml.Cursor

/-!
# Anchors, tags and directives

An anchor gives a node a name, an alias stands for the node of that name, and a tag says what kind of
value a node is. A tag may be written with a handle, which a directive in front of the document can
give a meaning.
-/

namespace PolicyGate.Yaml

/-- What a line in front of a document says. -/
inductive Directive where
  /-- The version of the format; the number behind the point does not matter. -/
  | version (major : Nat)
  /-- What a handle stands for. -/
  | handle (name expansion : String)
  | other
deriving DecidableEq, Repr

/-- A tag as it is written: in full, or behind a handle. -/
structure Tag where
  handle : Option String
  text : String
deriving DecidableEq, Repr

/-- May the character stand in a tag? -/
def isTagCharacter (c : Char) : Bool :=
  c.isAlphanum || "-;/?:@&=+$,_.!~*'()[]%".toList.contains c

/-- Reads the name of an anchor or an alias behind its sign. -/
def nodeName : Scan String := do
  Scan.skip 1
  let name ← Scan.takeWhile isNameCharacter
  let next ← Scan.peek
  if name.isEmpty || !(endsWord next || next.any "?:,]\x7d%@`".toList.contains) then Scan.fail
  return String.ofList name

/-- Reads escaped bytes, as long as there are any. -/
def escapedBytes : Nat → Scan (List UInt8)
  | 0 => return []
  | fuel + 1 => do
    match (← get).rest with
    | '%' :: a :: b :: _ =>
      match Json.hexDigit? a, Json.hexDigit? b with
      | some high, some low =>
        Scan.skip 3
        return UInt8.ofNat (16 * high + low) :: (← escapedBytes fuel)
      | _, _ => Scan.fail
    | '%' :: _ => Scan.fail
    | _ => return []

/-- Reads the characters of a tag; escaped bytes are those of UTF-8. -/
def tagText : Nat → Scan (List Char)
  | 0 => return []
  | fuel + 1 => do
    match ← Scan.peek with
    | some '%' =>
      match String.fromUTF8? ⟨(← escapedBytes ((← get).rest.length + 1)).toArray⟩ with
      | some s => return s.toList ++ (← tagText fuel)
      | none => Scan.fail
    | some c =>
      if !isTagCharacter c then return []
      Scan.skip 1
      return c :: (← tagText fuel)
    | none => return []

/-- Reads the characters of a tag, of which there must be one. -/
def someTagText : Scan String := do
  let c ← get
  if !c.rest.head?.any isTagCharacter then Scan.fail
  return String.ofList (← tagText (c.rest.length + 1))

/-- Reads a handle: an exclamation mark, or a name between two of them. -/
def tagHandle : Scan String := do
  if (← Scan.peek) ≠ some '!' then Scan.fail
  Scan.skip 1
  if (← Scan.peek) = some ' ' then return "!"
  let name ← Scan.takeWhile isNameCharacter
  if (← Scan.peek) ≠ some '!' then Scan.fail
  Scan.skip 1
  return String.ofList ('!' :: name ++ ['!'])

/-- Reads a tag from its exclamation mark on. -/
def tag : Scan Tag := do
  let rest := (← get).rest.drop 1
  let result ←
    if rest.head? = some '<' then do
      Scan.skip 2
      let text ← someTagText
      if (← Scan.peek) ≠ some '>' then Scan.fail
      Scan.skip 1
      pure ⟨none, text⟩
    else if endsWord rest.head? then do
      Scan.skip 1
      pure ⟨none, "!"⟩
    else if (rest.takeWhile fun c => !endsProperty (some c)).contains '!' then do
      let handle ← tagHandle
      pure ⟨some handle, ← someTagText⟩
    else do
      Scan.skip 1
      pure ⟨some "!", ← someTagText⟩
  if endsProperty (← Scan.peek) then return result else Scan.fail

/-- Reads a whole number. -/
def directiveNumber : Scan Nat := do
  let digits ← Scan.takeWhile Char.isDigit
  if digits.isEmpty then Scan.fail
  if digitLimit < digits.length then throw (.tooManyDigits digits.length)
  return digits.foldl (fun n c => 10 * n + (c.toNat - 48)) 0

/-- Reads a version: two numbers with a point between them. -/
def versionDirective : Scan Directive := do
  discard <| Scan.takeWhile (· = ' ')
  let major ← directiveNumber
  if (← Scan.peek) ≠ some '.' then Scan.fail
  Scan.skip 1
  discard directiveNumber
  if endsProperty (← Scan.peek) then return .version major else Scan.fail

/-- Reads a handle and what it stands for. -/
def handleDirective : Scan Directive := do
  discard <| Scan.takeWhile (· = ' ')
  let name ← tagHandle
  if (← Scan.peek) ≠ some ' ' then Scan.fail
  discard <| Scan.takeWhile (· = ' ')
  let expansion ← someTagText
  if endsProperty (← Scan.peek) then return .handle name expansion else Scan.fail

/-- Reads a directive from its percent sign on, with the rest of its line. -/
def directive : Scan Directive := do
  Scan.skip 1
  let name ← Scan.takeWhile isNameCharacter
  if name.isEmpty || !endsProperty (← Scan.peek) then Scan.fail
  let result ← match String.ofList name with
    | "YAML" => versionDirective
    | "TAG" => handleDirective
    | _ => do
      discard <| Scan.takeWhile fun c => !isBreak c
      pure .other
  Scan.restOfLine
  return result

end PolicyGate.Yaml
