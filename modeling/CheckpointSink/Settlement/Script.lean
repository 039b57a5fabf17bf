import CheckpointSink.Settlement.Worker

/-!
Scripts of a single worker. After every step all tasks that can run have run.
-/

namespace CheckpointSink.Settlement

inductive WorkerStep where
  | attach (delivered : Option Outcome)
  | resolve (outcomes : List (Nat × Outcome))
  | resolveAfter (batch delayMs : Nat) (outcome : Outcome)
  | sleep (delayMs : Nat)
  | shutdown (graceMs : Nat)
  | drop
  | start
  deriving DecidableEq

inductive WorkerAnswer where
  | nothing
  /-- There is no worker to attach to. -/
  | gone
  | number (batch : Nat)
  | flag (happened : Bool)
  | flags (happened : List Bool)
  deriving DecidableEq

structure WorkerReport where
  answer : WorkerAnswer
  pending : Int
  nowMs : Nat
  entries : List Entry
  deriving DecidableEq

/-- A timeline with at most one worker in hand. -/
structure Station where
  timeline : Timeline
  handle : Option WorkerHandle
  deriving DecidableEq

namespace Station

/-- A new worker takes the place of the one before it, which is dropped. -/
def start (station : Station) : Station :=
  let started := WorkerHandle.start station.timeline
  ⟨match station.handle with
    | none => started.2
    | some handle => handle.drop started.2, some started.1⟩

def initial : Station :=
  let started := (⟨.empty, none⟩ : Station).start
  { started with timeline := started.timeline.runReady }

def attach (station : Station) (delivered : Option Outcome) : WorkerAnswer × Station :=
  match station.handle with
  | none => (.gone, station)
  | some handle =>
    let batch := station.timeline.ledger.next
    let submitted := handle.submit delivered station.timeline
    (.number batch,
      { station with
        timeline := if delivered.isNone then submitted.addResolver batch else submitted })

def shutdown (station : Station) (graceMs : Nat) : WorkerAnswer × Station :=
  match station.handle with
  | none => (.flag false, station)
  | some handle =>
    let stopped := handle.shutdown graceMs station.timeline
    (.flag true, ⟨stopped.2, some stopped.1⟩)

def drop (station : Station) : WorkerAnswer × Station :=
  match station.handle with
  | none => (.flag false, station)
  | some handle => (.flag true, ⟨handle.drop station.timeline, none⟩)

def perform (station : Station) : WorkerStep → WorkerAnswer × Station
  | .attach delivered => station.attach delivered
  | .resolve outcomes =>
    let resolved := station.timeline.resolveAll outcomes
    (.flags resolved.1, { station with timeline := resolved.2 })
  | .resolveAfter batch delayMs outcome =>
    let taken := station.timeline.resolveAfter batch delayMs outcome
    (.flag taken.1, { station with timeline := taken.2 })
  | .sleep delayMs => (.nothing, { station with timeline := station.timeline.sleep delayMs })
  | .shutdown graceMs => station.shutdown graceMs
  | .drop => station.drop
  | .start => (.nothing, station.start)

/-- The entries of earlier steps are put away before a step. -/
def step (station : Station) (action : WorkerStep) : WorkerReport × Station :=
  let cleared := { station with timeline := station.timeline.clearEntries }
  let performed := cleared.perform action
  let settled := performed.2.timeline.runReady
  (⟨performed.1, settled.pending, settled.nowMs, settled.ledger.entries.reverse⟩,
    { performed.2 with timeline := settled })

def run (station : Station) : List WorkerStep → List WorkerReport
  | [] => []
  | first :: rest => (station.step first).1 :: run (station.step first).2 rest

/-- The station after a script. -/
def after (station : Station) : List WorkerStep → Station
  | [] => station
  | first :: rest => (station.step first).2.after rest

end Station
end CheckpointSink.Settlement
