import PolicyGate.Consent.Session

/-!
# A loop that serves the calls of a session

The calls of a session take turns on one loop, first come first served. A call keeps the loop until it
waits for something that is not there yet; what it waits for puts it back at the end of the line. The
people asked and the actions executed follow scripts that say how many turns they take and how they end.

With a time limit, a prompt has a turn of its own in the line, and the call watches it: it is alerted
when the prompt is over or the time is up. A watcher that gives up stops the prompt first.

The loop changes the session by `Session.after` only, so whatever holds for all events holds here.
-/

namespace PolicyGate

/-- What happens in a session while a person reads a prompt. -/
inductive Interjection where
  | decide (raw : Option String)
  | withdraw
  | reload (rules : RuleSet)

/-- How the asking ends. -/
inductive ReplyEnding where
  | reply (raw : Option String)
  /-- No answer ever comes. -/
  | silence
  | cancelled
  | timeOut
  | fails (message : String)

/-- The event that the end of the asking is. -/
def ReplyEnding.event (i : Nat) : ReplyEnding → Option Event
  | .reply raw => some (.reply i raw)
  | .silence => none
  | .cancelled => some (.cancel i)
  | .timeOut => some (.timeOut i)
  | .fails message => some (.promptFails i message)

/-- How a person deals with a prompt. -/
structure ReplyScript where
  before : List Interjection := []
  turns : Nat := 0
  ending : ReplyEnding

/-- How an action is executed. -/
structure RunScript where
  turns : Nat := 0
  answer : Except String Value

/-- What is waited for when time is limited. -/
inductive TimeLimit where
  /-- The time is up before it starts. -/
  | past
  /-- The time is up when nothing else is left to do. -/
  | positive
deriving DecidableEq, Repr

/-- A prompt with a turn of its own. -/
inductive Asker where
  | fresh (struck : Bool)
  | pausing (turns : Nat) (ending : ReplyEnding) (struck : Bool)
  /-- No answer ever comes. -/
  | deaf
  /-- The prompt was stopped while no answer came. -/
  | roused
  | over (ending : ReplyEnding)

/-- Why a prompt is stopped. -/
inductive StopReason where
  | timeUp
  | cancelled
deriving DecidableEq, Repr

/-- How a call watches its prompt. -/
inductive Watch where
  | watching
  | alerted
  | interrupted
  | stopping (why : StopReason) (stopped : Bool)
deriving DecidableEq, Repr

/-- What a call waits for. -/
inductive Wait where
  | starting
  /-- In the queue of those who want to ask. -/
  | inQueue
  /-- At the front of the queue. -/
  | called
  /-- Cancelled in the queue. -/
  | leaving
  | listening (turns : Nat) (ending : ReplyEnding)
  | deaf
  | roused
  | watch (attempt : Nat) (watch : Watch) (asker : Asker)
  | executing (turns : Nat) (answer : Except String Value)
  | over

/-- A call on the loop. One that is struck is cancelled when it gets its turn. -/
structure Thread where
  wait : Wait
  struck : Bool := false

/-- What stands in the line. -/
inductive Job where
  | call (i : Nat)
  | asker (i attempt : Nat)
  /-- The prompt of a call is over. -/
  | notice (i attempt : Nat)
  /-- After some more turns, a call is cancelled. -/
  | strike (i turns : Nat)

/-- The turns that a job takes besides its first one. -/
def Job.turns : Job → Nat
  | .strike _ turns => turns
  | .call _ | .asker _ _ | .notice _ _ => 0

/-- The loop, its line and its scripts. -/
structure Loop where
  session : Session
  threads : List Thread := []
  line : List Job := []
  /-- Those in the queue; those marked need not be called any more. -/
  waiters : List (Nat × Bool) := []
  replies : List ReplyScript := []
  runs : List RunScript := []
  limit : Option TimeLimit := none

namespace Loop

/-- The loop with one more job at the end of the line. -/
def enqueue (l : Loop) (job : Job) : Loop := { l with line := l.line ++ [job] }

/-- What a call waits for. -/
def thread (l : Loop) (i : Nat) : Thread := l.threads.getD i ⟨.over, false⟩

/-- The loop in which a call waits for something else. -/
def set (l : Loop) (i : Nat) (wait : Wait) : Loop :=
  { l with threads := l.threads.set i ⟨wait, false⟩ }

/-- The loop in which a call is struck. -/
def strike (l : Loop) (i : Nat) : Loop :=
  { l with threads := l.threads.set i { l.thread i with struck := true } }

/-- The loop in which the first of the queue, if nobody has called it yet, is called. -/
def callFirst (l : Loop) : Loop :=
  match l.waiters with
  | (i, false) :: rest => ({ l with waiters := (i, true) :: rest }.set i .called).enqueue (.call i)
  | _ => l

/-- The loop after an event of the session. -/
def happen (l : Loop) (e : Event) : Loop := { l with session := l.session.after e }

/-- The loop after an event of a call. If the turn to ask became free, the next one is called. -/
def advance (l : Loop) (e : Event) : Loop :=
  let after := l.happen e
  let entered := match e with
    | .takeTurn _ => true
    | _ => false
  if after.session.holder.isNone && (entered || l.session.holder.isSome) then after.callFirst
  else after

/-- The loop without a call in the queue. -/
def leave (l : Loop) (i : Nat) : Loop := { l with waiters := l.waiters.filter (·.1 ≠ i) }

/-- What happens while a person reads a prompt. -/
def interject (l : Loop) : Interjection → Loop
  | .decide raw => l.happen (.decide raw)
  | .withdraw => l.happen .withdraw
  | .reload rules => l.happen (.reload rules)

/-- The next script of a person: the loop after what happens meanwhile, and how the asking goes on. -/
def nextReply (l : Loop) : Loop × Nat × ReplyEnding :=
  match l.replies with
  | [] => (l, 0, .fails "no more replies")
  | script :: rest =>
    ((script.before.foldl interject { l with replies := rest }), script.turns, script.ending)

/-- A prompt of a call is shown. -/
def present (l : Loop) (i : Nat) : Loop × Nat × ReplyEnding := (l.happen (.show_ i)).nextReply

/-- The next script of an execution. -/
def nextRun (l : Loop) : RunScript × Loop :=
  match l.runs with
  | [] => (⟨0, .ok (.record [("ok", .bool true)])⟩, l)
  | script :: rest => (script, { l with runs := rest })

/-- Goes on with a call until it waits. -/
def settle (i : Nat) : Nat → Loop → Loop
  | 0, l => l
  | fuel + 1, l =>
    match l.session.call? i with
    | some (_, .queued _) => { l.set i .inQueue with waiters := l.waiters ++ [(i, false)] }
    | some (_, .asking _ attempt false) =>
      match l.limit with
      | none =>
        match l.present i with
        | (l, 0, ending) =>
          match ending.event i with
          | some e => settle i fuel (l.advance e)
          | none => l.set i .deaf
        | (l, turns, ending) => (l.set i (.listening turns ending)).enqueue (.call i)
      | some .past =>
        (l.set i (.watch attempt (.stopping .timeUp false) (.fresh true))).enqueue (.asker i attempt)
      | some .positive =>
        (l.set i (.watch attempt .watching (.fresh false))).enqueue (.asker i attempt)
    | some (_, .running _) =>
      match l.nextRun with
      | (⟨0, answer⟩, l) => settle i fuel (l.advance (.finish i answer))
      | (⟨turns, answer⟩, l) => (l.set i (.executing turns answer)).enqueue (.call i)
    | _ => l.set i .over

/-- Goes on with a call after an event of its own. -/
def proceed (l : Loop) (i : Nat) (e : Event) : Loop :=
  let l := l.advance e
  settle i (l.replies.length + 4) l

/-- Goes on with a call whose asking is over. -/
def hear (l : Loop) (i : Nat) (ending : ReplyEnding) : Loop :=
  match ending.event i with
  | some e => l.proceed i e
  | none => l.set i .deaf

/-- The loop in which a watcher stops its prompt. -/
def stop (l : Loop) (i attempt : Nat) (why : StopReason) (asker : Asker) : Loop :=
  let waiting (asker : Asker) := l.set i (.watch attempt (.stopping why false) asker)
  match asker with
  | .fresh _ => waiting (.fresh true)
  | .pausing turns ending _ => waiting (.pausing turns ending true)
  | .deaf => (waiting .roused).enqueue (.asker i attempt)
  | asker => waiting asker

/-- A call gets its turn. -/
def resume (l : Loop) (i : Nat) : Loop :=
  let ⟨wait, struck⟩ := l.thread i
  match wait with
  | .starting => l.proceed i (if struck then .cancel i else .begin i)
  | .called =>
    let l := l.leave i
    if struck then
      let l := l.proceed i (.cancel i)
      if l.session.holder.isNone then l.callFirst else l
    else l.proceed i (.takeTurn i)
  | .leaving =>
    let l := (l.leave i).set i .over
    if l.session.holder.isNone then l.callFirst else l
  | .listening turns ending =>
    if struck then l.proceed i (.cancel i)
    else if 1 < turns then (l.set i (.listening (turns - 1) ending)).enqueue (.call i)
    else l.hear i ending
  | .roused => l.proceed i (.cancel i)
  | .executing turns answer =>
    if struck then l.proceed i (.cancel i)
    else if 1 < turns then (l.set i (.executing (turns - 1) answer)).enqueue (.call i)
    else l.proceed i (.finish i answer)
  | .watch attempt watch asker =>
    match watch, asker with
    | .stopping why true, _ =>
      if struck then l.proceed i (.cancel i)
      else match why with
        | .timeUp => l.proceed i (.timeOut i)
        | .cancelled => l.proceed i (.cancel i)
    | .alerted, .over ending | .interrupted, .over ending => l.hear i ending
    | .alerted, asker => l.stop i attempt (if struck then .cancelled else .timeUp) asker
    | .interrupted, asker => l.stop i attempt .cancelled asker
    | _, _ => l
  | .inQueue | .deaf | .over => l

/-- A prompt is over. -/
def askerEnds (l : Loop) (i attempt : Nat) (watch : Watch) (ending : ReplyEnding) : Loop :=
  (l.set i (.watch attempt watch (.over ending))).enqueue (.notice i attempt)

/-- How a prompt goes on after some more turns. -/
def askerGoesOn (l : Loop) (i attempt : Nat) (watch : Watch) (turns : Nat) (ending : ReplyEnding) :
    Loop :=
  match turns, ending with
  | 0, .silence => l.set i (.watch attempt watch .deaf)
  | 0, ending => l.askerEnds i attempt watch ending
  | turns, ending =>
    (l.set i (.watch attempt watch (.pausing turns ending false))).enqueue (.asker i attempt)

/-- Does a call still deal with the prompt of an attempt? -/
def watchOf (l : Loop) (i attempt : Nat) : Option (Watch × Asker) :=
  match (l.thread i).wait with
  | .watch k watch asker => if k = attempt then some (watch, asker) else none
  | _ => none

/-- A prompt gets its turn. -/
def ask (l : Loop) (i attempt : Nat) : Loop :=
  let struck := (l.thread i).struck
  let l' := match l.watchOf i attempt with
    | some (watch, .fresh true) | some (watch, .pausing _ _ true) | some (watch, .roused) =>
      l.askerEnds i attempt watch .cancelled
    | some (watch, .fresh false) =>
      let (l, turns, ending) := l.present i
      l.askerGoesOn i attempt watch turns ending
    | some (watch, .pausing turns ending false) => l.askerGoesOn i attempt watch (turns - 1) ending
    | _ => l
  if struck then l'.strike i else l'

/-- A watcher learns that its prompt is over. -/
def notice (l : Loop) (i attempt : Nat) : Loop :=
  match l.watchOf i attempt with
  | some (.watching, asker) => (l.set i (.watch attempt .alerted asker)).enqueue (.call i)
  | some (.stopping why false, asker) =>
    (l.set i (.watch attempt (.stopping why true) asker)).enqueue (.call i)
  | _ => l

/-- A call is cancelled. One that stands in the line is struck, one that waits is put there. -/
def cancel (l : Loop) (i : Nat) : Loop :=
  match (l.thread i).wait with
  | .over => l
  | .inQueue =>
    let l := (l.happen (.cancel i)).set i .leaving
    let waiters := l.waiters.map fun (j, called) => (j, called || j = i)
    { l with waiters }.enqueue (.call i)
  | .deaf => (l.set i .roused).enqueue (.call i)
  | .watch attempt .watching asker =>
    (l.set i (.watch attempt .interrupted asker)).enqueue (.call i)
  | .watch attempt (.stopping why false) asker =>
    ((l.set i (.watch attempt (.stopping why true) asker)).strike i).enqueue (.call i)
  | _ => l.strike i

/-- The first in the line gets its turn. -/
def turn (l : Loop) : Job → Loop
  | .call i => l.resume i
  | .asker i attempt => l.ask i attempt
  | .notice i attempt => l.notice i attempt
  | .strike i turns => if 1 < turns then l.enqueue (.strike i (turns - 1)) else l.cancel i

/-- The loop when the line is empty: the time of the first watcher is up, if there is one. -/
def timeUp? (l : Loop) : Option Loop :=
  (List.range l.threads.length).findSome? fun i =>
    match (l.thread i).wait with
    | .watch attempt .watching asker =>
      some ((l.set i (.watch attempt .alerted asker)).enqueue (.call i))
    | _ => none

/-- The loop after a number of turns, or when nothing is left to do. -/
def runFor : Nat → Loop → Loop
  | 0, l => l
  | fuel + 1, l =>
    match l.line with
    | job :: rest => runFor fuel ({ l with line := rest }.turn job)
    | [] =>
      match l.timeUp? with
      | some l => runFor fuel l
      | none => l

/-- No run takes more turns than this. -/
def patience (l : Loop) : Nat :=
  let replies := l.replies.foldl (fun n script => n + script.turns) 0
  let runs := l.runs.foldl (fun n script => n + script.turns) 0
  let strikes := l.line.foldl (fun n job => n + job.turns) 0
  replies + runs + strikes + 20 * (l.threads.length + l.replies.length + l.runs.length + 2)

/-- The loop when nothing is left to do. -/
def finish (l : Loop) : Loop := runFor l.patience l

/-- The loop with one more call in the line. -/
def submit (l : Loop) (call : Call) : Loop :=
  let i := l.session.calls.length
  let l : Loop := { l.happen (.arrive call) with threads := l.threads ++ [⟨.starting, false⟩] }
  l.enqueue (.call i)

/-- The loop in which a call will be cancelled after some turns. -/
def cancelAfter (l : Loop) (i turns : Nat) : Loop :=
  if turns = 0 then l.cancel i else l.enqueue (.strike i turns)

/-- Asks about a plan outside of any call, and says how the asking ended. -/
def consult (l : Loop) (prompt : Prompt) : Loop × ReplyEnding :=
  if !l.session.config.canAsk then (l, .fails "consent gate has no prompter to ask")
  else if l.limit = some .past then (l, .timeOut)
  else
    let session := { l.session with asked := l.session.asked ++ [prompt] }
    match { l with session }.nextReply with
    | (l, _, .silence) => (l, .timeOut)
    | (l, _, ending) => (l, ending)

end Loop
end PolicyGate
