/-!
# Regular expressions as trees

A tree says which texts an expression matches once the switches in force are known: the same literal
matches more under `ignoreCase`, the same anchor more under `multiline`. Switches therefore do not
stand in the tree, except where a group turns some on or off for its body.

Characters are given by their code points, since an expression can name points that no text contains.
-/

namespace PolicyGate.Regex

/-- The switches that an expression can set. -/
structure Flags where
  /-- Letters match irrespective of case. -/
  ignoreCase : Bool := false
  /-- The line anchors hold at every line, and not only at the ends of the text. -/
  multiline : Bool := false
  /-- The dot matches the line feed too. -/
  dotAll : Bool := false
  /-- Blanks and comments in the expression are skipped. -/
  verbose : Bool := false
  /-- Digits, blanks, words and letter case are those of ASCII. -/
  ascii : Bool := false
  /-- Digits, blanks, words and letter case are those of Unicode. -/
  unicode : Bool := false
  /-- The expression does without repetition. -/
  template : Bool := false
deriving DecidableEq, Repr

namespace Flags

/-- All switches that are on in one of two sets. -/
def union (a b : Flags) : Flags where
  ignoreCase := a.ignoreCase || b.ignoreCase
  multiline := a.multiline || b.multiline
  dotAll := a.dotAll || b.dotAll
  verbose := a.verbose || b.verbose
  ascii := a.ascii || b.ascii
  unicode := a.unicode || b.unicode
  template := a.template || b.template

/-- The switches of the first set that are off in the second. -/
def without (a b : Flags) : Flags where
  ignoreCase := a.ignoreCase && !b.ignoreCase
  multiline := a.multiline && !b.multiline
  dotAll := a.dotAll && !b.dotAll
  verbose := a.verbose && !b.verbose
  ascii := a.ascii && !b.ascii
  unicode := a.unicode && !b.unicode
  template := a.template && !b.template

/-- Is any switch on? -/
def isSet (a : Flags) : Bool := a != {}

/-- Is a switch on in both sets? -/
def meets (a b : Flags) : Bool := a.without b != a

/-- The two switches that choose a character set. At most one of them is in force. -/
def characterSets : Flags where
  ascii := true
  unicode := true

/-- The switches in a group that turns `on` and `off` some: a character set replaces the other one. -/
def adjust (flags on off : Flags) : Flags :=
  let kept := if on.ascii || on.unicode then flags.without characterSets else flags
  (kept.union on).without off

end Flags

/-- Conditions on a place in the text. -/
inductive Anchor where
  | lineStart
  | lineEnd
  | textStart
  | textEnd
  | boundary
  | noBoundary
deriving DecidableEq, Repr

/-- Named sets of characters. -/
inductive Category where
  | digit
  | space
  | word
deriving DecidableEq, Repr

/-- What a character set consists of. -/
inductive Member where
  | single (point : Nat)
  | range (low high : Nat)
  | category (kind : Category) (negated : Bool)
deriving DecidableEq, Repr

/-- How a repetition chooses between going on and stopping. -/
inductive Greed where
  /-- As often as possible, then less often. -/
  | greedy
  /-- As rarely as possible, then more often. -/
  | reluctant
  /-- As often as possible, and never less often. -/
  | possessive
deriving DecidableEq, Repr

/-- The least and greatest number of characters that an expression matches. -/
structure Width where
  low : Nat
  high : Nat
deriving DecidableEq, Repr

/-- A regular expression. -/
inductive Node where
  | empty
  | sequence (first second : Node)
  | choice (first second : Node)
  | literal (point : Nat)
  | otherThan (point : Nat)
  | any
  | oneOf (negated : Bool) (members : List Member)
  | anchor (kind : Anchor)
  | capture (group : Nat) (body : Node)
  | scope (on off : Flags) (body : Node)
  | atomic (body : Node)
  /-- From `least` to `most` times; any number of times from `least` on if there is no `most`. -/
  | times (greed : Greed) (least : Nat) (most : Option Nat) (body : Node)
  /-- The text that a group has captured. -/
  | reference (group : Nat)
  /-- One of two expressions, chosen by whether a group has captured something. -/
  | condition (group : Nat) (yes no : Node)
  | ahead (negated : Bool) (body : Node)
  /-- The text just before this place, of a width found when the expression was read. -/
  | behind (negated : Bool) (width : Width) (body : Node)
deriving DecidableEq, Repr

/-- Nodes one after the other, given last first. -/
def Node.chain (reversed : List Node) : Node :=
  match reversed with
  | [] => .empty
  | last :: earlier => earlier.foldl (fun rest node => .sequence node rest) last

end PolicyGate.Regex
