import PolicyGate.Consent.State
import PolicyGate.Policy.RuleSet

/-!
# Outcomes of calls

A call of an action goes through the gate and is executed, simulated or blocked. A blocked call says why.
Every outcome of these three kinds leaves one entry in the audit log.
-/

namespace PolicyGate

/-- What became of a call. -/
inductive GateStatus where
  | executed
  | simulated
  | blocked
deriving DecidableEq, Repr

/-- The word for a status. -/
def GateStatus.name : GateStatus → String
  | .executed => "executed"
  | .simulated => "simulated"
  | .blocked => "blocked"

/-- Why a call is blocked. -/
inductive BlockReason where
  /-- The rules deny the action. -/
  | policyDeny
  /-- Nobody has been asked, and nobody can be. -/
  | consentRequired
  /-- The answer was no. -/
  | consentDeclined
deriving DecidableEq, Repr

/-- The word for a reason. -/
def BlockReason.name : BlockReason → String
  | .policyDeny => "policy_deny"
  | .consentRequired => "consent_required"
  | .consentDeclined => "consent_declined"

/-- A call of an action. -/
structure Call where
  action : String
  args : Value := .null
  context : Context := []

/-- The plan that a person is asked about. -/
structure Prompt where
  action : String
  args : Value
  decision : Decision
  attempt : Nat := 1

namespace Prompt

/-- The arguments as an indented page; where their keys have no common order, as a literal. -/
def arguments (p : Prompt) : String :=
  match Json.write .page p.args with
  | .ok s => s
  | .error _ => p.args.text?.getD ""

/-- What the person reads. -/
def text (p : Prompt) : String :=
  String.intercalate "\n" <|
    ["About to run `" ++ p.action ++ "` with:", p.arguments]
      ++ (if p.decision.verdict = .warn then ["", p.decision.markdown "Governance warnings"] else [])
      ++ ["", "Reply `yes` to execute, `dry run` to simulate, or `no` to cancel."]

end Prompt

/-- The outcome of a call that went through the gate. -/
structure GateResult where
  status : GateStatus
  decision : Decision
  result : Value := .null
  reasons : List String := []
  blockReason : Option BlockReason := none
  /-- The plan that a person has yet to be asked about. -/
  prompt : Option Prompt := none
  /-- What went wrong when the action was executed. -/
  error : String := ""

namespace GateResult

/-- The reasons of a decision, if they come from rules. -/
def reasonsOf (d : Decision) : List String := if d.matched.isEmpty then [] else d.reasons

/-- An executed call, with the answer of the action or what went wrong. -/
def executed (d : Decision) (answer : Except String Value) : GateResult :=
  match answer with
  | .ok v => { status := .executed, decision := d, result := v, reasons := reasonsOf d }
  | .error message =>
    { status := .executed, decision := d, reasons := reasonsOf d, error := message }

/-- A simulated call. -/
def simulated (call : Call) (d : Decision) : GateResult where
  status := .simulated
  decision := d
  result := .record [("simulated", .bool true), ("action", .str call.action), ("arguments", call.args)]
  reasons := reasonsOf d

/-- What a blocked call is told besides the reasons of the rules. -/
def notice (call : Call) : BlockReason → List String
  | .policyDeny => []
  | .consentRequired =>
    ["consent required before running '" ++ call.action ++ "': reply yes, dry run or no"]
  | .consentDeclined =>
    ["consent declined: state-changing actions are blocked for this session"]

/-- A blocked call. One that needs consent carries the plan to be asked about. -/
def blocked (call : Call) (d : Decision) (why : BlockReason) : GateResult where
  status := .blocked
  decision := d
  reasons := notice call why ++ reasonsOf d
  blockReason := some why
  prompt := match why with
    | .consentRequired => some { action := call.action, args := call.args, decision := d }
    | .policyDeny | .consentDeclined => none

/-- The written form of an outcome; what is empty is left out. -/
def toValue (r : GateResult) : Value :=
  .record <| [("status", .str r.status.name), ("decision", r.decision.toValue)]
    ++ (match r.result with
      | .null => []
      | v => [("result", v)])
    ++ (if r.reasons.isEmpty then [] else [("reasons", .list (r.reasons.map .str))])
    ++ (match r.blockReason with
      | some why => [("blockReason", .str why.name)]
      | none => [])
    ++ (if r.error.isEmpty then [] else [("error", .str r.error)])

end GateResult

/-- An entry of the audit log. -/
structure AuditEntry where
  action : String
  status : GateStatus
  verdict : Verdict
  mode : ConsentMode
  matched : List String
  blockReason : Option BlockReason
  error : String

namespace AuditEntry

/-- The entry of an outcome, with the consent of the session at that moment. -/
def ofResult (action : String) (mode : ConsentMode) (r : GateResult) : AuditEntry where
  action := action
  status := r.status
  verdict := r.decision.verdict
  mode := mode
  matched := r.decision.matched
  blockReason := r.blockReason
  error := r.error

/-- The written form of an entry. -/
def toValue (e : AuditEntry) : Value := .record
  [("action", .str e.action), ("status", .str e.status.name), ("verdict", .str e.verdict.name),
   ("consentMode", .str e.mode.name), ("policyIds", .list (e.matched.map .str)),
   ("blockReason", .str ((e.blockReason.map BlockReason.name).getD "")), ("error", .str e.error)]

end AuditEntry

/-- Why a call ends without an outcome of the gate. -/
inductive CallFailure where
  /-- No decision could be made. -/
  | undecidable (cause : RenderError)
  /-- The answer came when the session had decided already. -/
  | consent (cause : ConsentError)
  /-- Asking went wrong. -/
  | prompter (message : String)
  | cancelled
deriving DecidableEq, Repr

end PolicyGate
