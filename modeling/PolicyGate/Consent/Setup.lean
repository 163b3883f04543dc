import PolicyGate.Consent.Loop
import PolicyGate.Settings.Basic

/-!
# Setting up a gate

The settings say which actions need consent, how often a person is asked and for how long.
-/

namespace PolicyGate

/-- The gate that the settings describe, with somebody to ask or without. -/
def GateConfig.ofSettings (settings : Settings) (canAsk : Bool) : GateConfig where
  prefixes := settings.namespaces
  safeActions := settings.safeActions
  canAsk := canAsk
  maxPrompts := settings.maxPrompts

/-- The limit that a number of seconds sets. -/
def TimeLimit.ofSeconds (seconds : Binary64) : TimeLimit :=
  if seconds.nonpositive then .past else .positive

end PolicyGate
