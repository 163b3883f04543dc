import PolicyGate.Consent.Outcome

/-!
# Sessions

A session holds every state-changing call until a person has decided once for all of them. Calls run
side by side; what a call does between two waits is one step, and steps do not overlap. A call waits for
its turn to ask, for a reply, or for the action it executes.

At most one call asks at a time. The others stand in a queue, and whoever comes to the front when a
decision has been made does not ask again. Besides the calls, a person may decide or withdraw on their
own, and the rules may be exchanged, at any moment.

`Session.step` is the whole behaviour: an event that does not fit the state has no successor.
-/

namespace PolicyGate

/-- What a session is set up with. -/
structure GateConfig where
  /-- The namespaces whose actions change state. -/
  prefixes : List String := ["azure", "github", "teams"]
  /-- Actions that need no consent whatever their namespace. -/
  safeActions : List String := []
  /-- Is there anybody to ask? -/
  canAsk : Bool := true
  /-- The greatest number of prompts for one call. -/
  maxPrompts : Int := 3

/-- How often one call may ask: at least once. -/
def GateConfig.attempts (c : GateConfig) : Nat := max 1 c.maxPrompts.toNat

/-- How far a call has come. -/
inductive Phase where
  | ready
  /-- The call waits for its turn to ask. -/
  | queued (d : Decision)
  /-- The call has its turn; `shown` says whether the person has the prompt before them. -/
  | asking (d : Decision) (attempt : Nat) (shown : Bool)
  /-- The action is being executed. -/
  | running (d : Decision)
  | done (r : GateResult)
  | failed (e : CallFailure)

/-- A session and all of its calls. -/
structure Session where
  config : GateConfig
  rules : RuleSet
  consent : ConsentState := .fresh
  audit : List AuditEntry := []
  calls : List (Call × Phase) := []
  /-- The calls that wait for their turn to ask, in order. -/
  queue : List Nat := []
  /-- The call whose turn it is to ask. -/
  holder : Option Nat := none
  /-- The prompts shown so far, in order. -/
  asked : List Prompt := []
  /-- The actions executed so far, in order. -/
  ran : List (String × Value) := []

/-- What can happen in a session. -/
inductive Event where
  /-- A new call is made; it starts later. -/
  | arrive (call : Call)
  | begin (i : Nat)
  /-- A queued call gets its turn. -/
  | takeTurn (i : Nat)
  | show_ (i : Nat)
  | reply (i : Nat) (raw : Option String)
  | timeOut (i : Nat)
  /-- Asking goes wrong. -/
  | promptFails (i : Nat) (message : String)
  /-- The action has been executed, or went wrong. -/
  | finish (i : Nat) (answer : Except String Value)
  /-- The call is cancelled, or whoever was asked for it is. -/
  | cancel (i : Nat)
  /-- A person decides on their own. -/
  | decide (raw : Option String)
  /-- A person withdraws the plan. -/
  | withdraw
  /-- The rules are exchanged. -/
  | reload (rules : RuleSet)

namespace Session

/-- The call with a number, and how far it has come. -/
def call? (s : Session) (i : Nat) : Option (Call × Phase) := s.calls[i]?

/-- The session with a call moved to another phase. -/
def move (s : Session) (i : Nat) (call : Call) (p : Phase) : Session :=
  { s with calls := s.calls.set i (call, p) }

/-- Does the action change state? Its own name and the name it stands for both count. -/
def isStateChanging (s : Session) (action : String) : Bool :=
  let resolved := s.rules.resolveAction action
  if s.config.safeActions.contains action || s.config.safeActions.contains resolved then false
  else s.config.prefixes.contains (namespaceOf action)
    || s.config.prefixes.contains (namespaceOf resolved)

/-- The session in which a call has its outcome, with an entry in the audit log. -/
def conclude (s : Session) (i : Nat) (call : Call) (r : GateResult) : Session :=
  { s.move i call (.done r) with
    audit := s.audit ++ [.ofResult call.action s.consent.mode r] }

/-- The session in which a call's action is being executed. -/
def run (s : Session) (i : Nat) (call : Call) (d : Decision) : Session :=
  { s.move i call (.running d) with ran := s.ran ++ [(call.action, call.args)] }

/-- The session in which a call follows the decision of the person. -/
def follow (s : Session) (i : Nat) (call : Call) (d : Decision) : Session :=
  match s.consent.mode with
  | .execute => s.run i call d
  | .simulate => s.conclude i call (.simulated call d)
  | .deny | .undecided => s.conclude i call (.blocked call d .consentDeclined)

/-- The session in which nobody has the turn to ask. -/
def release (s : Session) : Session := { s with holder := none }

/-- The session in which a call gets the turn to ask. It asks unless a decision has been made. -/
def enter (s : Session) (i : Nat) (call : Call) (d : Decision) : Session :=
  if s.consent.askedOnce then s.release.follow i call d
  else { s.move i call (.asking d 1 false) with holder := some i }

/-- A call starts: the rules decide, and a state-changing action needs the person's consent. -/
def start (s : Session) (i : Nat) (call : Call) : Session :=
  match s.rules.evaluate call.action call.args call.context with
  | .error e => s.move i call (.failed (.undecidable e))
  | .ok d =>
    if !s.isStateChanging call.action then s.run i call d
    else if d.verdict = .deny then s.conclude i call (.blocked call d .policyDeny)
    else if s.consent.askedOnce then s.follow i call d
    else if !s.config.canAsk then s.conclude i call (.blocked call d .consentRequired)
    else if s.holder.isNone && s.queue.isEmpty then s.enter i call d
    else { s.move i call (.queued d) with queue := s.queue ++ [i] }

/-- The session with a decision recorded, or the reason why it is not. -/
def record (s : Session) (mode : ConsentMode) : Except ConsentError Session :=
  (s.consent.record mode).map fun consent => { s with consent }

/-- The end of asking with a no; a decision made in the meantime is an error. -/
def decline (s : Session) (i : Nat) (call : Call) (d : Decision) : Session :=
  match s.record .deny with
  | .ok t => t.release.follow i call d
  | .error e => s.release.move i call (.failed (.consent e))

/-- The end of asking because the call or the person asked was cancelled. -/
def abandon (s : Session) (i : Nat) (call : Call) : Session :=
  match s.record .deny with
  | .ok t => t.release.move i call (.failed .cancelled)
  | .error e => s.release.move i call (.failed (.consent e))

/-- The session after a line of a person, and whether the line decided. -/
def hear (s : Session) (raw : Option String) : Session × Option ConsentMode :=
  match Reply.mode? raw with
  | none => (s, none)
  | some mode =>
    match s.record mode with
    | .ok t => (t, some mode)
    | .error _ => (s, none)

/-- The reply to a prompt: a decision ends the asking, anything else leads to the next attempt, and the
last attempt to a no. -/
def answer (s : Session) (i : Nat) (call : Call) (d : Decision) (attempt : Nat)
    (raw : Option String) : Session :=
  let (t, mode) := s.hear raw
  if mode.isSome then t.release.follow i call d
  else if attempt < s.config.attempts then t.move i call (.asking d (attempt + 1) false)
  else t.decline i call d

/-- What an event makes of a session; nothing if the event does not fit. -/
def step (s : Session) : Event → Option Session
  | .arrive call => some { s with calls := s.calls ++ [(call, .ready)] }
  | .begin i =>
    match s.call? i with
    | some (call, .ready) => some (s.start i call)
    | _ => none
  | .takeTurn i =>
    match s.call? i with
    | some (call, .queued d) =>
      if s.holder.isNone && s.queue.contains i then
        some ({ s with queue := s.queue.erase i }.enter i call d)
      else none
    | _ => none
  | .show_ i =>
    match s.call? i with
    | some (call, .asking d attempt false) =>
      let prompt := { action := call.action, args := call.args, decision := d, attempt }
      some { s.move i call (.asking d attempt true) with asked := s.asked ++ [prompt] }
    | _ => none
  | .reply i raw =>
    match s.call? i with
    | some (call, .asking d attempt true) => some (s.answer i call d attempt raw)
    | _ => none
  | .timeOut i =>
    match s.call? i with
    | some (call, .asking d _ _) => some (s.decline i call d)
    | _ => none
  | .promptFails i message =>
    match s.call? i with
    | some (call, .asking _ _ true) => some (s.release.move i call (.failed (.prompter message)))
    | _ => none
  | .finish i answer =>
    match s.call? i with
    | some (call, .running d) => some (s.conclude i call (.executed d answer))
    | _ => none
  | .cancel i =>
    match s.call? i with
    | some (call, .ready) => some (s.move i call (.failed .cancelled))
    | some (call, .queued _) =>
      some ({ s with queue := s.queue.erase i }.move i call (.failed .cancelled))
    | some (call, .asking _ _ _) => some (s.abandon i call)
    | some (call, .running _) => some (s.move i call (.failed .cancelled))
    | _ => none
  | .decide raw => some (s.hear raw).1
  | .withdraw =>
    match s.record .deny with
    | .ok t => some t
    | .error _ => some s
  | .reload rules => some { s with rules }

/-- The session after an event; one that does not fit changes nothing. -/
def after (s : Session) (e : Event) : Session := (s.step e).getD s

end Session
end PolicyGate
