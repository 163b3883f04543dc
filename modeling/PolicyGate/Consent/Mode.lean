import PolicyGate.Text.Blank
import PolicyGate.Text.Case

/-!
# Consent modes and replies

What a person decided for the state-changing actions of a session, and the phrases that say so. A reply
is compared word by word: letter case and the blanks between words do not matter, anything else does.
-/

namespace PolicyGate

/-- What was decided for state-changing actions. -/
inductive ConsentMode where
  | undecided
  | execute
  | simulate
  | deny
deriving DecidableEq, Repr

namespace ConsentMode

/-- The mode's name in answers. -/
def name : ConsentMode → String
  | .undecided => "undecided"
  | .execute => "execute"
  | .simulate => "simulate"
  | .deny => "deny"

/-- The mode with the given name. -/
def ofName? (name : String) : Option ConsentMode :=
  [undecided, execute, simulate, deny].find? (·.name == name)

/-- Does the mode express a decision? -/
def isDecided : ConsentMode → Bool
  | .undecided => false
  | _ => true

/-- The phrases that express a decision. -/
def phrases : ConsentMode → List String
  | .undecided => []
  | .execute => ["yes", "y", "execute", "approve"]
  | .simulate => ["dry run", "dry-run", "dry", "simulate"]
  | .deny => ["no", "n", "cancel", "deny"]

end ConsentMode

namespace Reply

/-- The words of a reply in lower case, joined by single spaces. -/
def phrase (raw : String) : String :=
  String.intercalate " " (Text.words (Text.lower raw))

/-- The decision that a reply expresses, if it is one of the phrases. No reply is no decision. -/
def mode? (raw : Option String) : Option ConsentMode :=
  let said := phrase (raw.getD "")
  [ConsentMode.execute, .simulate, .deny].find? fun mode => mode.phrases.contains said

end Reply
end PolicyGate
