import PolicyGate.Yaml.BlockScalar
import PolicyGate.Yaml.PlainScalar
import PolicyGate.Yaml.Property
import PolicyGate.Yaml.QuotedScalar

/-!
# Tokens

A document is a row of tokens. Where a block begins or ends by indentation alone, there is a token for
it. A key of a single line is recognised only by the colon behind it, so the reader remembers where one
may have begun, and puts the token in front of it later.
-/

namespace PolicyGate.Yaml

/-- A token of a document. -/
inductive Token where
  | directive (d : Directive)
  | documentStart
  | documentEnd
  | sequenceStart
  | mappingStart
  | blockEnd
  | openList
  | closeList
  | openMap
  | closeMap
  | item
  | comma
  | key
  | value
  | alias (name : String)
  | anchor (name : String)
  | tag (t : Tag)
  | scalar (text : String) (plain : Bool)
deriving DecidableEq, Repr

/-- A place where a key of a single line may have begun. -/
structure KeyPlace where
  /-- The number of tokens before it. -/
  before : Nat
  /-- Must there be a key? -/
  required : Bool
  place : Cursor

/-- The reader of tokens. -/
structure Lexer where
  cursor : Cursor
  /-- The tokens so far, the last one first. -/
  tokens : List Token := []
  /-- The column of the innermost block. -/
  indent : Int := -1
  /-- The columns of the blocks around it, innermost first. -/
  outer : List Int := []
  /-- May a key begin here? -/
  keyAllowed : Bool := true
  /-- Where a key may have begun, outside of brackets. -/
  blockKey : Option KeyPlace := none
  /-- Where a key may have begun inside of each open bracket, innermost first. -/
  flowKeys : List (Option KeyPlace) := []

/-- A step of the reader. -/
abbrev Lex := StateT Lexer (Except Fault)

namespace Lex

/-- Keys of a single line are no longer than this. -/
def longestKey : Nat := 1024

/-- The text is malformed. -/
def fail {α : Type} : Lex α := throw .malformed

/-- Reads a part of the text. -/
def scan {α : Type} (s : Scan α) : Lex α := do
  let l ← get
  let (a, cursor) ← s.run l.cursor
  set { l with cursor }
  return a

/-- Is the place inside of brackets? -/
def inBrackets : Lex Bool := return !(← get).flowKeys.isEmpty

/-- Adds a token. -/
def emit (t : Token) : Lex Unit := modify fun l => { l with tokens := t :: l.tokens }

/-- Adds a token behind some of the first ones. -/
def insert (before : Nat) (t : Token) : Lex Unit :=
  modify fun l => { l with tokens := l.tokens.insertIdx (l.tokens.length - before) t }

/-- Says whether a key may begin next. -/
def allowKey (b : Bool) : Lex Unit := modify fun l => { l with keyAllowed := b }

/-- A key place that has not been given up yet; a required one must not be. -/
def fresh? (cursor : Cursor) : Option KeyPlace → Except Fault (Option KeyPlace)
  | none => .ok none
  | some k =>
    if k.place.line = cursor.line ∧ cursor.index - k.place.index ≤ longestKey then .ok (some k)
    else if k.required then .error .malformed
    else .ok none

/-- Gives up the places that are too far away for a key. -/
def dropStaleKeys : Lex Unit := do
  let l ← get
  let blockKey ← fresh? l.cursor l.blockKey
  let flowKeys ← l.flowKeys.mapM fun k => fresh? l.cursor k
  set { l with blockKey, flowKeys }

/-- The place where a key may have begun, within the innermost bracket. -/
def candidate : Lex (Option KeyPlace) := do
  let l ← get
  return match l.flowKeys with
    | k :: _ => k
    | [] => l.blockKey

/-- Changes that place. -/
def setCandidate (k : Option KeyPlace) : Lex Unit := modify fun l =>
  match l.flowKeys with
  | _ :: rest => { l with flowKeys := k :: rest }
  | [] => { l with blockKey := k }

/-- Gives up the place within the innermost bracket. -/
def dropKey : Lex Unit := do
  if (← candidate).any (·.required) then fail
  setCandidate none

/-- Remembers that a key may begin here. -/
def markKey : Lex Unit := do
  let l ← get
  if l.keyAllowed then
    dropKey
    let required := l.flowKeys.isEmpty && l.indent = l.cursor.column
    setCandidate (some ⟨l.tokens.length, required, l.cursor⟩)

/-- Ends the blocks that are indented further than a column. -/
def unwind (column : Int) : Lex Unit := modify fun l =>
  if l.flowKeys.isEmpty then
    let (ended, left) := (l.indent :: l.outer).span (column < ·)
    { l with
      tokens := ended.map (fun _ => Token.blockEnd) ++ l.tokens
      indent := left.headD (-1)
      outer := left.tail }
  else l

/-- Begins a block at a column, unless the place is in one of at least that indentation. -/
def deepen (column : Nat) : Lex Bool := do
  let l ← get
  if l.indent < column then
    set { l with indent := (column : Int), outer := l.indent :: l.outer }
    return true
  else return false

/-- Moves to the start of the next token. -/
def toNextToken : Nat → Lex Unit
  | 0 => return
  | fuel + 1 => do
    let broke ← scan do
      discard <| Scan.takeWhile (· = ' ')
      Scan.comment
      return !(← Scan.lineBreak).isEmpty
    if broke then
      if !(← inBrackets) then allowKey true
      toNextToken fuel

/-- Reads a line that stands alone: a directive or what separates documents. -/
def standalone (s : Scan Token) : Lex Unit := do
  unwind (-1)
  dropKey
  allowKey false
  emit (← scan s)

/-- Reads an opening bracket. -/
def openBracket (t : Token) : Lex Unit := do
  markKey
  modify fun l => { l with flowKeys := none :: l.flowKeys, keyAllowed := true }
  scan (Scan.skip 1)
  emit t

/-- Reads a closing bracket. -/
def closeBracket (t : Token) : Lex Unit := do
  if !(← inBrackets) then fail
  dropKey
  modify fun l => { l with flowKeys := l.flowKeys.tail, keyAllowed := false }
  scan (Scan.skip 1)
  emit t

/-- Reads a comma. -/
def comma : Lex Unit := do
  allowKey true
  dropKey
  scan (Scan.skip 1)
  emit .comma

/-- Begins a block at the cursor, outside of brackets and where a key may begin. -/
def beginBlock (start : Token) : Lex Unit := do
  if !(← inBrackets) then
    let l ← get
    if !l.keyAllowed then fail
    if ← deepen l.cursor.column then emit start

/-- Reads the dash of an item. -/
def item : Lex Unit := do
  beginBlock .sequenceStart
  allowKey true
  dropKey
  scan (Scan.skip 1)
  emit .item

/-- Reads the question mark of a key. -/
def key : Lex Unit := do
  beginBlock .mappingStart
  allowKey (!(← inBrackets))
  dropKey
  scan (Scan.skip 1)
  emit .key

/-- Reads the colon of a value. If a key may have begun before, it did. -/
def value : Lex Unit := do
  match ← candidate with
  | some k =>
    setCandidate none
    insert k.before .key
    if !(← inBrackets) then
      if ← deepen k.place.column then insert k.before .mappingStart
    allowKey false
  | none =>
    beginBlock .mappingStart
    allowKey (!(← inBrackets))
    dropKey
  scan (Scan.skip 1)
  emit .value

/-- Reads something that may be a key. -/
def node (s : Scan Token) : Lex Unit := do
  markKey
  allowKey false
  emit (← scan s)

/-- Reads a block scalar. -/
def block (folding : Bool) : Lex Unit := do
  allowKey true
  dropKey
  emit (.scalar (← scan (blockScalar folding (← get).indent)) false)

/-- Reads a plain scalar. -/
def plain : Lex Unit := do
  markKey
  let (text, atStart) ← scan (plainScalar (← inBrackets) (← get).indent)
  allowKey atStart
  emit (.scalar text true)

/-- May a plain scalar begin with these characters? -/
def startsPlain (inBrackets : Bool) (c : Char) (next : Option Char) : Bool :=
  !(endsWord (some c) || "-?:,[]\x7b\x7d#&*!|>'\"%@`".toList.contains c)
    || !endsWord next && (c == '-' || !inBrackets && (c == '?' || c == ':'))

/-- Reads the token that begins with some character. -/
def token (c : Char) : Lex Unit := do
  let cursor := (← get).cursor
  let next := (cursor.rest.drop 1).head?
  let inBrackets ← inBrackets
  let atSeparator := cursor.column = 0 && cursor.atSeparator
  if c == '%' && cursor.column = 0 then standalone (Token.directive <$> directive)
  else if c == '-' && atSeparator then standalone (do Scan.skip 3; return .documentStart)
  else if c == '.' && atSeparator then standalone (do Scan.skip 3; return .documentEnd)
  else if c == '[' then openBracket .openList
  else if c == '\x7b' then openBracket .openMap
  else if c == ']' then closeBracket .closeList
  else if c == '\x7d' then closeBracket .closeMap
  else if c == ',' then comma
  else if c == '-' && endsWord next then item
  else if c == '?' && (inBrackets || endsWord next) then key
  else if c == ':' && (inBrackets || endsWord next) then value
  else if c == '*' then node (Token.alias <$> nodeName)
  else if c == '&' then node (Token.anchor <$> nodeName)
  else if c == '!' then node (Token.tag <$> tag)
  else if c == '|' && !inBrackets then block false
  else if c == '>' && !inBrackets then block true
  else if c == '\'' then node (do return .scalar (← quotedScalar false) false)
  else if c == '"' then node (do return .scalar (← quotedScalar true) false)
  else if startsPlain inBrackets c next then plain
  else fail

/-- Reads at most so many tokens. -/
def all : Nat → Lex Unit
  | 0 => fail
  | fuel + 1 => do
    toNextToken ((← get).cursor.rest.length + 1)
    dropStaleKeys
    unwind (← get).cursor.column
    match ← scan Scan.peek with
    | none =>
      unwind (-1)
      dropKey
    | some c =>
      token c
      all fuel

end Lex

/-- May the character stand in a document? -/
def isPrintable (c : Char) : Bool :=
  c == '\t' || c == '\n' || c == '\r' || (' ' ≤ c && c ≤ '~') || c == '\x85'
    || ('\xa0' ≤ c && c ≤ '\ufffd') || 0x10000 ≤ c.toNat

/-- The tokens of a text. -/
def Token.ofChars (cs : List Char) : Except Fault (List Token) := do
  if !cs.all isPrintable then throw .malformed
  let start : Cursor := { rest := cs }
  let cursor := if cs.head? = some byteOrderMark then start.next else start
  let ((), lexer) ← (Lex.all (cs.length + 1)).run { cursor }
  return lexer.tokens.reverse

end PolicyGate.Yaml
