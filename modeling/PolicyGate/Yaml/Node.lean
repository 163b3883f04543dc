import PolicyGate.Yaml.Kind
import PolicyGate.Yaml.Token

/-!
# Nodes

The tokens of a document form a tree of nodes, each with a tag in full. An alias is a copy of the node
that it names, which must be complete; so no node is part of itself.
-/

namespace PolicyGate.Yaml

/-- A part of a document. -/
inductive Node where
  | scalar (tag text : String)
  | sequence (tag : String) (items : List Node)
  | mapping (tag : String) (entries : List (Node × Node))
deriving Repr, Inhabited

/-- The reader of nodes. -/
structure Composer where
  /-- The tokens to come. -/
  tokens : List Token
  /-- What handles stand for. -/
  handles : List (String × String) := []
  /-- The nodes with a name; one that is still being read has none yet. -/
  anchors : List (String × Option Node) := []

/-- A step of the reader, which fails if the tokens form no document. -/
abbrev Compose := StateT Composer Option

namespace Compose

/-- The next token, which stays. -/
def peek : Compose (Option Token) := return (← get).tokens.head?

/-- Is this the next token? -/
def isNext (t : Token) : Compose Bool := return (← peek) = some t

/-- Is the next token one of these? -/
def nextIn (ts : List Token) : Compose Bool := return (← peek).any ts.contains

/-- Goes past the next token. -/
def advance : Compose Unit := modify fun c => { c with tokens := c.tokens.tail }

/-- Goes past a token, which must be the next one. -/
def expect (t : Token) : Compose Unit := do
  if ← isNext t then advance else failure

/-- A node that is not written. -/
def absent : Node := .scalar (standardTag "null") ""

/-- The tag in full. -/
def fullTag (t : Tag) : Compose String := do
  match t.handle with
  | none => return t.text
  | some handle =>
    match (← get).handles.lookup handle with
    | some expansion => return expansion ++ t.text
    | none => failure

/-- Reads an anchor, if there is one. -/
def anchor? : Compose (Option String) := do
  match ← peek with
  | some (.anchor name) =>
    advance
    return some name
  | _ => return none

/-- Reads a tag, if there is one. -/
def tag? : Compose (Option String) := do
  match ← peek with
  | some (.tag t) =>
    advance
    return some (← fullTag t)
  | _ => return none

/-- Reads an anchor and a tag, in either order. -/
def properties : Compose (Option String × Option String) := do
  match ← anchor? with
  | some name => return (some name, ← tag?)
  | none =>
    match ← tag? with
    | some t => return (← anchor?, some t)
    | none => return (none, none)

/-- The node with a name. -/
def named (name : String) : Compose Node := do
  match (← get).anchors.lookup name with
  | some (some node) => return node
  | _ => failure

/-- Takes a name for the node that is being read; it must be free. -/
def reserve (name : String) : Compose Unit := do
  if ((← get).anchors.lookup name).isSome then failure
  modify fun c => { c with anchors := (name, none) :: c.anchors }

/-- Gives the node its name. -/
def record (name : String) (node : Node) : Compose Unit :=
  modify fun c => { c with anchors := (name, some node) :: c.anchors }

/-- The tag of a collection. -/
def collectionTag (tag : Option String) (usual : String) : String :=
  match tag with
  | none | some "!" => standardTag usual
  | some t => t

/-- A scalar with the tag that is given or suggested. -/
def scalar (tag : Option String) (text : String) (plain : Bool) : Node :=
  match tag with
  | some "!" => .scalar (suggestedTag text) text
  | some t => .scalar t text
  | none => .scalar (if plain then suggestedTag text else standardTag "str") text

/-- Where a node may stand. -/
inductive Context where
  | flow
  | block
  /-- In a block, and items may follow without a further indentation. -/
  | indentless
deriving DecidableEq, Repr

mutual

/-- Reads a node. -/
def node (context : Context) : Nat → Compose Node
  | 0 => failure
  | fuel + 1 => do
    match ← peek with
    | some (.alias name) =>
      advance
      named name
    | _ =>
      let (name, tag) ← properties
      if let some n := name then reserve n
      let result ← content context (name.isSome || tag.isSome) tag fuel
      if let some n := name then record n result
      return result

/-- Reads a node behind its properties. With a property, the node itself may be left out. -/
def content (context : Context) (hasProperty : Bool) (tag : Option String) : Nat → Compose Node
  | 0 => failure
  | fuel + 1 => do
    let inBlock := context ≠ .flow
    match ← peek with
    | some (.scalar text plain) =>
      advance
      return scalar tag text plain
    | some .openList =>
      advance
      return .sequence (collectionTag tag "seq") (← listItems true fuel)
    | some .openMap =>
      advance
      return .mapping (collectionTag tag "map") (← mapEntries true fuel)
    | next =>
      if context = .indentless ∧ next = some .item then
        return .sequence (collectionTag tag "seq") (← indentlessItems fuel)
      else if inBlock ∧ next = some .sequenceStart then
        advance
        return .sequence (collectionTag tag "seq") (← blockItems fuel)
      else if inBlock ∧ next = some .mappingStart then
        advance
        return .mapping (collectionTag tag "map") (← blockEntries fuel)
      else if hasProperty then return scalar tag "" true
      else failure

/-- Reads a node unless one of some tokens stands there; then it is left out. -/
def nodeUnless (stops : List Token) (context : Context) : Nat → Compose Node
  | 0 => failure
  | fuel + 1 => do if ← nextIn stops then return absent else node context fuel

/-- Reads the items of a block. -/
def blockItems : Nat → Compose (List Node)
  | 0 => failure
  | fuel + 1 => do
    if ← isNext .item then
      advance
      let first ← nodeUnless [.item, .blockEnd] .block fuel
      return first :: (← blockItems fuel)
    else
      expect .blockEnd
      return []

/-- Reads items that are indented no further than what is around them. -/
def indentlessItems : Nat → Compose (List Node)
  | 0 => failure
  | fuel + 1 => do
    if ← isNext .item then
      advance
      let first ← nodeUnless [.item, .key, .value, .blockEnd] .block fuel
      return first :: (← indentlessItems fuel)
    else return []

/-- Reads the entries of a block. -/
def blockEntries : Nat → Compose (List (Node × Node))
  | 0 => failure
  | fuel + 1 => do
    let stops : List Token := [.key, .value, .blockEnd]
    if ← isNext .key then
      advance
      let k ← nodeUnless stops .indentless fuel
      let v ← if ← isNext .value then do
          advance
          nodeUnless stops .indentless fuel
        else pure absent
      return (k, v) :: (← blockEntries fuel)
    else
      expect .blockEnd
      return []

/-- Reads an entry in brackets, behind its key token. -/
def flowEntry (close : Token) : Nat → Compose (Node × Node)
  | 0 => failure
  | fuel + 1 => do
    let k ← nodeUnless [.value, .comma, close] .flow fuel
    if ← isNext .value then
      advance
      return (k, ← nodeUnless [.comma, close] .flow fuel)
    else return (k, absent)

/-- Reads the items of a list in brackets. An item may be a mapping of a single entry. -/
def listItems (first : Bool) : Nat → Compose (List Node)
  | 0 => failure
  | fuel + 1 => do
    if ← isNext .closeList then
      advance
      return []
    if !first then expect .comma
    if ← isNext .closeList then
      advance
      return []
    let item ← if ← isNext .key then do
        advance
        pure (Node.mapping (standardTag "map") [← flowEntry .closeList fuel])
      else node .flow fuel
    return item :: (← listItems false fuel)

/-- Reads the entries of a mapping in brackets. A key may stand alone. -/
def mapEntries (first : Bool) : Nat → Compose (List (Node × Node))
  | 0 => failure
  | fuel + 1 => do
    if ← isNext .closeMap then
      advance
      return []
    if !first then expect .comma
    if ← isNext .closeMap then
      advance
      return []
    let entry ← if ← isNext .key then do
        advance
        flowEntry .closeMap fuel
      else do pure (← node .flow fuel, absent)
    return entry :: (← mapEntries false fuel)

end

/-- The handles that need no directive. -/
def usualHandles : List (String × String) := [("!", "!"), ("!!", standardTag "")]

/-- Reads the directives of a document. -/
def directives (hasVersion : Bool) : Nat → Compose Unit
  | 0 => failure
  | fuel + 1 => do
    match ← peek with
    | some (.directive d) =>
      advance
      match d with
      | .version major =>
        if hasVersion || major != 1 then failure
        directives true fuel
      | .handle name expansion =>
        if ((← get).handles.lookup name).isSome then failure
        modify fun c => { c with handles := (name, expansion) :: c.handles }
        directives hasVersion fuel
      | .other => directives hasVersion fuel
    | _ => return

/-- Goes past the ends of documents. -/
def documentEnds : Nat → Compose Unit
  | 0 => failure
  | fuel + 1 => do
    if ← isNext .documentEnd then
      advance
      documentEnds fuel

/-- Reads the only document of a text, if there is one. -/
def document : Compose (Option Node) := do
  let fuel := 4 * (← get).tokens.length + 4
  let root ← match ← peek with
    | none => pure none
    | some (.directive _) | some .documentStart => do
      directives false fuel
      expect .documentStart
      modify fun c => { c with handles := c.handles ++ usualHandles }
      let isEmpty ← match ← peek with
        | none | some (.directive _) | some .documentStart | some .documentEnd => pure true
        | _ => pure false
      if isEmpty then pure (some absent) else some <$> node .block fuel
    | _ => do
      modify fun c => { c with handles := usualHandles }
      some <$> node .block fuel
  documentEnds fuel
  if (← peek).isSome then failure
  return root

end Compose

/-- The root of the document that some tokens form; none if they form an empty one. -/
def Node.ofTokens? (tokens : List Token) : Option (Option Node) :=
  (Compose.document.run { tokens }).map (·.1)

end PolicyGate.Yaml
