import CheckpointSink.Options.Settings
import CheckpointSink.Record.Request
import CheckpointSink.Routing.Partitioner
import CheckpointSink.Session.Client
import CheckpointSink.Settlement.Worker

/-!
A sink and its life: it is opened with a client and a worker, ships the logs of its elements, waits
at checkpoints until all that was shipped has settled, and is closed.
-/

namespace CheckpointSink

open CheckpointSink.Settlement

/-- The calls that leave the sink. Those of a client go to the one that was handed out with a number. -/
inductive Call where
  | place (place : Place)
  | create (settings : ClientSettings) (destination : Destination) (creation : Creation)
  | send (number : Nat) (request : LogRequest) (error : Option ClientError)
  | close (number : Nat) (error : Option ClientError)
  deriving DecidableEq

structure Sink (ε : Type) where
  settings : Settings
  /-- The logs of an element, given the time of the clock. -/
  schema : UInt32 → ε → Option LogGroup
  partitioner : Option (PlacedPartitioner ε)
  /-- The number of the client that is held from the opening to the closing. -/
  held : Option Nat
  worker : Option WorkerHandle

/-- A sink with its client on a timeline. -/
structure Session (ε : Type) where
  clock : UInt32
  timeline : Timeline
  client : Client
  sink : Sink ε
  /-- The newest call first. -/
  calls : List Call

namespace Sink

variable {ε : Type}

def new (settings : Settings) (schema : UInt32 → ε → Option LogGroup) : Sink ε :=
  ⟨settings, schema, none, none, none⟩

def clientHeld (sink : Sink ε) : Bool := sink.held.isSome

theorem clientHeld_of_held {sink : Sink ε} {number : Nat} (held : sink.held = some number) :
    sink.clientHeld = true :=
  Option.isSome_of_eq_some held

theorem held_eq_none_iff {sink : Sink ε} : sink.held = none ↔ sink.clientHeld = false := by
  rw [clientHeld, Option.isSome_eq_false_iff, Option.isNone_iff_eq_none]

def place (sink : Sink ε) (place : Place) : Sink ε :=
  { sink with partitioner := sink.partitioner.map (·.put place) }

def isWatched (sink : Sink ε) : Bool :=
  sink.partitioner.any (·.partitioner.watched)

def shardKey (sink : Sink ε) (element : ε) : Option String :=
  match sink.partitioner with
  | none => none
  | some placed => placed.key element

def request (sink : Sink ε) (element : ε) (group : LogGroup) : LogRequest :=
  ⟨sink.settings.destination.project, sink.settings.logstore, group.topic, group.source,
    sink.shardKey element, group.items⟩

def barrier (sink : Sink ε) : Barrier :=
  ⟨sink.settings.flushTimeoutMs, sink.settings.pollIntervalMs⟩

end Sink

namespace Session

variable {ε : Type}

def new (clock : UInt32) (client : Client) (sink : Sink ε) : Session ε :=
  ⟨clock, .empty, client, sink, []⟩

def pending (session : Session ε) : Int := session.timeline.pending

def isOpen (session : Session ε) : Bool := session.sink.clientHeld

def enter (session : Session ε) (event : Event) : Session ε :=
  { session with timeline := session.timeline.enter event }

def record (session : Session ε) (call : Call) : Session ε :=
  { session with calls := call :: session.calls }

def place (session : Session ε) (place : Place) : Session ε :=
  let placed := { session with sink := session.sink.place place }
  if session.sink.isWatched then placed.record (.place place) else placed

/-- A client is made if none is held. -/
def acquire (session : Session ε) : Option ClientError × Session ε :=
  if session.sink.clientHeld then (none, session)
  else
    let created := session.client.create
    let settings := session.sink.settings
    let recorded :=
      { session with client := created.2 }.record
        (.create settings.client settings.destination created.1)
    match created.1 with
    | .failed error => (some error, recorded)
    | .handedOut number =>
      (none, { recorded with sink := { recorded.sink with held := some number } })

/-- A worker is started if none is held. -/
def employ (session : Session ε) : Session ε :=
  match session.sink.worker with
  | some _ => session
  | none =>
    let started := WorkerHandle.start session.timeline
    { session with
      timeline := started.2
      sink := { session.sink with worker := some started.1 } }

/-- The partitioner learns the place even if no client can be made. -/
def openAt (session : Session ε) (place : Place) : Except SinkError Unit × Session ε :=
  let acquired := (session.place place).acquire
  match acquired.1 with
  | some error => (.error (.creation error), acquired.2)
  | none =>
    let settings := session.sink.settings
    (.ok (), acquired.2.employ.enter
      (.sinkOpened settings.destination.project settings.logstore place.index place.count))

/-- An accepted batch is counted and attached to the worker. -/
def accept (session : Session ε) (worker : WorkerHandle) (delivered : Option Outcome) :
    Session ε :=
  let batch := session.timeline.ledger.next
  let submitted := worker.submit delivered session.timeline
  { session with
    timeline :=
      if delivered.isNone then submitted.addResolver batch else submitted }

/-- The timeline once the client has taken its time over a batch, if it takes any. -/
def considered (session : Session ε) : Timeline :=
  if session.client.delayMs = 0 then session.timeline
  else session.timeline.sleep session.client.delayMs

/-- A batch goes to the client with a number, which may take its time. -/
def ship (session : Session ε) (number : Nat) (worker : WorkerHandle) (request : LogRequest) :
    Except SinkError Unit × Session ε :=
  let later := { session with timeline := session.considered }
  let sent := later.client.send number
  let answered := { later with client := sent.2 }
  match sent.1 with
  | .error error =>
    (.error (.submit error),
      (answered.record (.send number request (some error))).enter (.sendFailed error))
  | .ok delivered =>
    (.ok (), (answered.record (.send number request none)).accept worker delivered)

/-- An element without logs is passed over. -/
def invoke (session : Session ε) (element : ε) : Except SinkError Unit × Session ε :=
  match session.sink.held, session.sink.worker with
  | some number, some worker =>
    match session.sink.schema session.clock element with
    | none => (.ok (), session.enter .nothingToSend)
    | some group =>
      if group.logs.isEmpty then (.ok (), session)
      else session.ship number worker (session.sink.request element group)
  | _, _ => (.error .notOpened, session)

/-- A wait for all batches, whether or not the sink is open. -/
def wait (session : Session ε) : Option WaitState × Session ε :=
  let waited := session.timeline.wait session.sink.barrier
  (waited.1, { session with timeline := waited.2 })

def snapshot (session : Session ε) : Option WaitState × Session ε :=
  if session.sink.clientHeld then session.wait else (some .skipped, session)

/-- The client is closed and given back; an error of its close is only reported. -/
def closeClient (session : Session ε) : Session ε :=
  match session.sink.held with
  | none => session
  | some number =>
    let closed := session.client.close number
    let outcomes := session.client.closing.outcomes session.timeline.resolvers
    let returned :=
      { session with
        timeline := session.timeline.useResolvers outcomes
        client := closed.2
        sink := { session.sink with held := none } }.record (.close number closed.1)
    match closed.1 with
    | some error => returned.enter (.clientCloseFailed error)
    | none => returned

def dismiss (session : Session ε) : Session ε :=
  match session.sink.worker with
  | none => session
  | some worker =>
    let stopped := worker.shutdown session.sink.settings.shutdownGraceMs session.timeline
    { session with timeline := stopped.2, sink := { session.sink with worker := none } }

def close (session : Session ε) : Session ε :=
  let dismissed := session.closeClient.dismiss
  dismissed.enter (.sinkClosed dismissed.pending)

end Session
end CheckpointSink
