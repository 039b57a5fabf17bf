import CheckpointSink.Session.Sink

/-!
Scripts of a sink and its client. After every step all tasks that can run have run.
-/

namespace CheckpointSink

open CheckpointSink.Settlement

inductive SessionStep (ε : Type) where
  | openAt (place : Place)
  | restoreState
  | invoke (element : ε)
  | snapshot
  | close
  /-- A wait for all batches in the foreground, in the background, and for one in the background. -/
  | wait
  | spawnWait
  | isOver (index : Nat)
  | join (index : Nat)
  | setPartitioner (partitioner : Partitioner ε)
  | showSettings
  | resolve (outcomes : List (Nat × Outcome))
  | resolveAfter (batch delayMs : Nat) (outcome : Outcome)
  | rejectNext (error : ClientError)
  | setAutomatic (outcome : Option Outcome)
  | setSendDelay (delayMs : Nat)
  | setClosing (closing : Closing)
  | failCloseNext (error : ClientError)
  | failFactoryNext (error : ClientError)
  | sleep (delayMs : Nat)

inductive SessionAnswer where
  | nothing
  | done
  | failed (error : SinkError)
  | waited (state : WaitState)
  /-- The wait does not end. -/
  | endless
  | number (index : Nat)
  | flag (value : Bool)
  | flags (values : List Bool)
  | joined
  | settings (settings : Settings)
  deriving DecidableEq

structure SessionReport where
  answer : SessionAnswer
  pending : Int
  isOpen : Bool
  nowMs : Nat
  entries : List Entry
  calls : List Call
  closes : Nat
  deriving DecidableEq

namespace SessionAnswer

def ofResult : Except SinkError Unit → SessionAnswer
  | .ok () => done
  | .error error => failed error

def ofWait : Option WaitState → SessionAnswer
  | some state => waited state
  | none => endless

/-- The answer to whether a wait is over. -/
def ofWaitState : Option (Option Bool) → SessionAnswer
  | some (some ended) => flag ended
  | some none => joined
  | none => nothing

end SessionAnswer

namespace Session

variable {ε : Type}

def onClient (session : Session ε) (change : Client → Client) : SessionAnswer × Session ε :=
  (.nothing, { session with client := change session.client })

/-- What comes of a change of the timeline. -/
def onTimeline (session : Session ε) (changed : SessionAnswer × Timeline) :
    SessionAnswer × Session ε :=
  (changed.1, { session with timeline := changed.2 })

def joinWait (timeline : Timeline) (index : Nat) : SessionAnswer × Timeline :=
  if timeline.waitState index = some none then (.joined, timeline)
  else
    let joined := timeline.join index
    (.ofWait joined.1, joined.2)

def perform (session : Session ε) : SessionStep ε → SessionAnswer × Session ε
  | .openAt place =>
    let opened := session.openAt place
    (.ofResult opened.1, opened.2)
  | .restoreState => (.done, session)
  | .invoke element =>
    let invoked := session.invoke element
    (.ofResult invoked.1, invoked.2)
  | .snapshot =>
    let waited := session.snapshot
    (.ofWait waited.1, waited.2)
  | .close => (.done, session.close)
  | .wait =>
    let waited := session.wait
    (.ofWait waited.1, waited.2)
  | .spawnWait =>
    let spawned := session.timeline.spawnWait session.sink.barrier
    session.onTimeline (.number spawned.1, spawned.2)
  | .isOver index => (.ofWaitState (session.timeline.waitState index), session)
  | .join index => session.onTimeline (joinWait session.timeline index)
  | .setPartitioner partitioner =>
    (.nothing, { session with
      sink := { session.sink with partitioner := some (.unplaced partitioner) } })
  | .showSettings => (.settings session.sink.settings, session)
  | .resolve outcomes =>
    let resolved := session.timeline.resolveAll outcomes
    session.onTimeline (.flags resolved.1, resolved.2)
  | .resolveAfter batch delayMs outcome =>
    let taken := session.timeline.resolveAfter batch delayMs outcome
    session.onTimeline (.flag taken.1, taken.2)
  | .rejectNext error =>
    session.onClient fun client => { client with rejections := client.rejections ++ [error] }
  | .setAutomatic outcome => session.onClient fun client => { client with automatic := outcome }
  | .setSendDelay delayMs => session.onClient fun client => { client with sendDelayMs := delayMs }
  | .setClosing closing => session.onClient fun client => { client with closing }
  | .failCloseNext error =>
    session.onClient fun client => { client with closeErrors := client.closeErrors ++ [error] }
  | .failFactoryNext error =>
    session.onClient fun client => { client with factoryErrors := client.factoryErrors ++ [error] }
  | .sleep delayMs => session.onTimeline (.nothing, session.timeline.sleep delayMs)

/-- The entries and calls of earlier steps are put away before a step. -/
def clear (session : Session ε) : Session ε :=
  { session with timeline := session.timeline.clearEntries, calls := [] }

def settleReady (session : Session ε) : Session ε :=
  { session with timeline := session.timeline.runReady }

def report (session : Session ε) (answer : SessionAnswer) : SessionReport where
  answer
  pending := session.pending
  isOpen := session.isOpen
  nowMs := session.timeline.nowMs
  entries := session.timeline.ledger.entries.reverse
  calls := session.calls.reverse
  closes := session.client.closes

def step (session : Session ε) (given : SessionStep ε) : SessionReport × Session ε :=
  let performed := session.clear.perform given
  let settled := performed.2.settleReady
  (settled.report performed.1, settled)

def run (session : Session ε) : List (SessionStep ε) → List SessionReport
  | [] => []
  | first :: rest => (session.step first).1 :: run (session.step first).2 rest

/-- The session after a script. -/
def after (session : Session ε) : List (SessionStep ε) → Session ε
  | [] => session
  | first :: rest => (session.step first).2.after rest

end Session

/-- The requests that a scripted client accepted; a discarding client shows none. -/
def Client.shownRequests (client : Client) (calls : List Call) : List LogRequest :=
  match client.kind with
  | .discarding => []
  | .scripted => calls.filterMap fun call =>
    match call with
    | .send _ request none => some request
    | _ => none

/-- The settings with which a factory was called. -/
def Client.shownCreations (client : Client) (calls : List Call) :
    List (ClientSettings × Destination) :=
  if client.fromFactory then calls.filterMap fun call =>
    match call with
    | .create settings destination _ => some (settings, destination)
    | _ => none
  else []

def shownPlaces (calls : List Call) : List Place :=
  calls.filterMap fun call =>
    match call with
    | .place place => some place
    | _ => none

end CheckpointSink
