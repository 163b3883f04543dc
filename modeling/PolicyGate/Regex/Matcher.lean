import PolicyGate.Regex.CharacterSet

/-!
# Matching

A node is matched from a place of the text on, and what must match behind it is a continuation. The
outcome is the first state, in order of preference, that the continuation accepts; going back to the
next choice is what happens when it accepts none.

An optional round of a repetition must begin at another place than the optional round before it, so a
body that matches nothing is not repeated for ever; the rounds up to the least number are free.
-/

namespace PolicyGate.Regex

/-- Where the matcher is, and the stretches of text that groups have captured, latest first. -/
structure Match where
  place : Nat
  captures : List (Nat × Nat × Nat)
deriving DecidableEq, Repr

namespace Match

/-- The stretch of text that a group has captured last. -/
def captured? (m : Match) (group : Nat) : Option (Nat × Nat) :=
  (m.captures.find? (·.1 == group)).map (·.2)

/-- The state after a group that began at a place. -/
def capture (m : Match) (group start : Nat) : Match :=
  { m with captures := (group, start, m.place) :: m.captures }

/-- The state one character on. -/
def next (m : Match) : Match := { m with place := m.place + 1 }

end Match

/-- What must match behind a node. -/
abbrev Continuation := Match → Option Match

/-- A node as a function of what must match behind it. -/
abbrev Step := Match → Continuation → Option Match

/-- The first outcome of two attempts. -/
def firstOf (first : Option Match) (second : Unit → Option Match) : Option Match :=
  match first with
  | some m => some m
  | none => second ()

/-- The body as often as given. -/
def exactly (body : Step) : Nat → Step
  | 0, m, next => next m
  | n + 1, m, next => body m fun after => exactly body n after next

/-- The body at most `most` times, preferably often. `last` is where the round before began. -/
def greedily (body : Step) : Nat → Option Nat → Option Nat → Step
  | 0, _, _, m, next => next m
  | fuel + 1, most, last, m, next =>
    if most = some 0 || last = some m.place then next m
    else firstOf
      (body m fun after => greedily body fuel (most.map (· - 1)) (some m.place) after next)
      fun _ => next m

/-- The body at most `most` times, preferably rarely. -/
def reluctantly (body : Step) : Nat → Option Nat → Option Nat → Step
  | 0, _, _, m, next => next m
  | fuel + 1, most, last, m, next =>
    firstOf (next m) fun _ =>
      if most = some 0 || last = some m.place then none
      else body m fun after => reluctantly body fuel (most.map (· - 1)) (some m.place) after next

/-- Where the matcher is after the body at most `most` times, each round as preferred. -/
def committed (body : Step) : Nat → Option Nat → Option Nat → Match → Match
  | 0, _, _, m => m
  | fuel + 1, most, last, m =>
    if most = some 0 || last = some m.place then m
    else match body m some with
      | none => m
      | some after => committed body fuel (most.map (· - 1)) (some m.place) after

/-- As `exactly`, each round as preferred. -/
def exactlyCommitted (body : Step) : Nat → Match → Option Match
  | 0, m => some m
  | n + 1, m => (body m some).bind (exactlyCommitted body n)

/-- A repetition of a body in a text of the given length. -/
def repetition (size : Nat) (greed : Greed) (least : Nat) (most : Option Nat) (body : Step) : Step :=
  fun m next =>
    let further := most.map (· - least)
    match greed with
    | .greedy => exactly body least m fun after =>
      greedily body (size - after.place + 2) further none after next
    | .reluctant => exactly body least m fun after =>
      reluctantly body (size - after.place + 2) further none after next
    | .possessive => (exactlyCommitted body least m).bind fun after =>
      next (committed body (size - after.place + 2) further none after)

/-- Is the character at the place, if there is one, part of a word? -/
def wordAt (flags : Flags) (text : Array Char) (place : Nat) : Bool :=
  (text[place]?).any (Category.word.holds flags)

/-- Is the character before the place, if there is one, part of a word? -/
def wordBefore (flags : Flags) (text : Array Char) (place : Nat) : Bool :=
  0 < place && wordAt flags text (place - 1)

/-- Does the condition hold at the place? In an empty text no place is, or is not, a boundary. -/
def Anchor.holds (flags : Flags) (text : Array Char) (place : Nat) : Anchor → Bool
  | .textStart => place == 0
  | .textEnd => place == text.size
  | .lineStart =>
    place == 0 || (flags.multiline && text[place - 1]? == some '\n')
  | .lineEnd =>
    place == text.size ||
      (text[place]? == some '\n' && (flags.multiline || place + 1 == text.size))
  | .boundary =>
    !text.isEmpty && wordBefore flags text place != wordAt flags text place
  | .noBoundary =>
    !text.isEmpty && wordBefore flags text place == wordAt flags text place

/-- One character that a test accepts. -/
def oneChar (text : Array Char) (accepts : Char → Bool) : Step := fun m next =>
  match text[m.place]? with
  | some c => if accepts c then next m.next else none
  | none => none

/-- Do two characters match each other, as a group's text and its repetition? -/
def sameChar (flags : Flags) (a b : Char) : Bool :=
  if flags.ignoreCase then flags.lower a.toNat == flags.lower b.toNat else a == b

/-- The place behind a copy of the stretch from `start` to `stop`; nothing if there is no copy. -/
def copyEnd? (flags : Flags) (text : Array Char) (start stop place : Nat) : Option Nat :=
  let wanted := (text.extract start stop).toList
  let found := (text.extract place (place + (stop - start))).toList
  if wanted.length == found.length && (wanted.zip found).all fun (a, b) => sameChar flags a b then
    some (place + wanted.length)
  else none

/-- Matches a node of an expression. -/
def Node.run (text : Array Char) : Node → Flags → Step
  | .empty, _ => fun m next => next m
  | .sequence a b, flags => fun m next => a.run text flags m fun after => b.run text flags after next
  | .choice a b, flags => fun m next =>
    firstOf (a.run text flags m next) fun _ => b.run text flags m next
  | .literal point, flags => oneChar text (literalMatches flags point)
  | .otherThan point, flags => oneChar text fun c => !literalMatches flags point c
  | .any, flags => oneChar text fun c => flags.dotAll || c != '\n'
  | .oneOf negated members, flags => oneChar text (setMatches flags negated members)
  | .anchor kind, flags => fun m next => if kind.holds flags text m.place then next m else none
  | .capture group body, flags => fun m next =>
    body.run text flags m fun after => next (after.capture group m.place)
  | .scope on off body, flags => body.run text (flags.adjust on off)
  | .atomic body, flags => fun m next => (body.run text flags m some).bind next
  | .times greed least most body, flags =>
    repetition text.size greed least most (body.run text flags)
  | .reference group, flags => fun m next =>
    match m.captured? group with
    | none => none
    | some (start, stop) =>
      match copyEnd? flags text start stop m.place with
      | some place => next { m with place }
      | none => none
  | .condition group yes no, flags => fun m next =>
    if (m.captured? group).isSome then yes.run text flags m next else no.run text flags m next
  | .ahead negated body, flags => fun m next =>
    match body.run text flags m some with
    | some after => if negated then none else next { after with place := m.place }
    | none => if negated then next m else none
  | .behind negated width body, flags => fun m next =>
    let found :=
      if m.place < width.low then none
      else body.run text flags { m with place := m.place - width.low } some
    match found with
    | some after => if negated then none else next { after with place := m.place }
    | none => if negated then next m else none

/-- Does the node match somewhere in the text? -/
def Node.search (node : Node) (flags : Flags) (text : Array Char) : Bool :=
  (List.range (text.size + 1)).any fun start => (node.run text flags ⟨start, []⟩ some).isSome

end PolicyGate.Regex
