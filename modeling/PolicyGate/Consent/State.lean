import PolicyGate.Consent.Mode

/-!
# The consent of a session

A session starts undecided. The first decision is recorded and stays: a session never changes its mind,
and a new decision needs a new session.
-/

namespace PolicyGate

/-- The consent of a session. `askedOnce` is set by the first decision and never cleared. -/
structure ConsentState where
  mode : ConsentMode
  askedOnce : Bool
deriving DecidableEq, Repr

/-- Why a decision is not recorded. -/
inductive ConsentError where
  /-- Being undecided is no decision. -/
  | noDecision
  /-- The session has decided already. -/
  | alreadyRecorded (mode : ConsentMode)
deriving DecidableEq, Repr

/-- The error in words. -/
def ConsentError.message : ConsentError → String
  | .noDecision => "Cannot record consent mode " ++ ConsentMode.undecided.name
  | .alreadyRecorded mode => "Consent already recorded as " ++ mode.name ++ " for this session"

namespace ConsentState

/-- A fresh session. -/
def fresh : ConsentState := ⟨.undecided, false⟩

/-- Has the session decided? -/
def decided (s : ConsentState) : Bool := s.mode.isDecided

/-- The state after a decision. -/
def record (s : ConsentState) (mode : ConsentMode) : Except ConsentError ConsentState :=
  if !mode.isDecided then .error .noDecision
  else if s.askedOnce then .error (.alreadyRecorded s.mode)
  else .ok ⟨mode, true⟩

end ConsentState
end PolicyGate
