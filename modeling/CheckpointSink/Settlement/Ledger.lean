import CheckpointSink.Completion

/-!
The way of a batch from its counting to its callback, in single steps. A forwarding task waits for
the outcome of its batch and hands it to the worker that it was attached to; where that worker takes
nothing any more, it runs the callback itself. The steps of different tasks may follow one another
in any order.
-/

namespace CheckpointSink.Settlement

/-- How far a batch has come that no worker has in its queue yet. -/
inductive Stage where
  | counted
  /-- A forwarding task waits for the outcome. It knows the worker only while the worker accepts. -/
  | waiting (worker : Option Nat)
  | received (outcome : Outcome) (worker : Option Nat)
  /-- The forwarding task keeps the worker's channel open. -/
  | sending (outcome : Outcome) (worker : Nat)
  /-- The forwarding task runs the callback. -/
  | inline (outcome : Outcome)
  deriving DecidableEq

structure Batch where
  id : Nat
  /-- The outcome, once the resolver was used or dropped. -/
  delivered : Option Outcome
  stage : Stage
  deriving DecidableEq

inductive TaskState where
  | running
  | cancelling
  | ended
  deriving DecidableEq

structure Worker where
  /-- Whoever started the worker still keeps its channel open. -/
  senderHeld : Bool
  task : TaskState
  queue : List (Nat × Outcome)
  deriving DecidableEq

def Worker.fresh : Worker := ⟨true, .running, []⟩

structure Ledger where
  pending : Int
  /-- The number of batches counted so far, and the number of the next one. -/
  next : Nat
  batches : List Batch
  /-- In the order of their starts. -/
  workers : List Worker
  /-- The batches that were in the queue of an aborted worker. -/
  discarded : List Nat
  /-- The newest entry first. -/
  entries : List Entry
  deriving DecidableEq

inductive Step where
  /-- A batch is counted; its outcome may be there already. -/
  | count (delivered : Option Outcome)
  | attach (batch worker : Nat)
  | deliver (batch : Nat) (outcome : Outcome)
  | receive (batch : Nat)
  | upgrade (batch : Nat)
  | send (batch : Nat)
  | settleInline (batch : Nat)
  | start
  | release (worker : Nat)
  | take (worker : Nat)
  | finish (worker : Nat)
  | cancel (worker : Nat)
  | abort (worker : Nat)
  deriving DecidableEq

namespace Ledger

def empty : Ledger := ⟨0, 0, [], [], [], []⟩

def batch? (ledger : Ledger) (id : Nat) : Option Batch :=
  ledger.batches.find? (fun batch => batch.id = id)

def worker? (ledger : Ledger) (worker : Nat) : Option Worker :=
  ledger.workers[worker]?

def setStage (ledger : Ledger) (id : Nat) (stage : Stage) : Ledger :=
  { ledger with
    batches := ledger.batches.map fun batch =>
      if batch.id = id then { batch with stage } else batch }

def setDelivered (ledger : Ledger) (id : Nat) (outcome : Outcome) : Ledger :=
  { ledger with
    batches := ledger.batches.map fun batch =>
      if batch.id = id then { batch with delivered := some outcome } else batch }

def removeBatch (ledger : Ledger) (id : Nat) : Ledger :=
  { ledger with batches := ledger.batches.filter fun batch => batch.id ≠ id }

def setWorker (ledger : Ledger) (worker : Nat) (state : Worker) : Ledger :=
  { ledger with workers := ledger.workers.set worker state }

def enter (ledger : Ledger) (event : Event) : Ledger :=
  { ledger with entries := .event event ledger.pending :: ledger.entries }

/-- The callback runs. -/
def complete (ledger : Ledger) (outcome : Outcome) : Ledger :=
  let settled := settle ledger.pending outcome
  { ledger with pending := settled.1, entries := settled.2.reverse ++ ledger.entries }

def isSendingTo (worker : Nat) (batch : Batch) : Bool :=
  match batch.stage with
  | .sending _ target => target = worker
  | _ => false

/-- Someone keeps the channel of the worker open. -/
def isOpen (ledger : Ledger) (worker : Nat) : Bool :=
  (ledger.worker? worker).any Worker.senderHeld || ledger.batches.any (isSendingTo worker)

def holdsSender (ledger : Ledger) (worker : Nat) : Bool :=
  (ledger.worker? worker).any Worker.senderHeld

def count (ledger : Ledger) (delivered : Option Outcome) : Ledger :=
  { ledger with
    pending := ledger.pending + 1
    next := ledger.next + 1
    batches := ledger.batches ++ [⟨ledger.next, delivered, .counted⟩] }

def attach (ledger : Ledger) (id worker : Nat) : Option Ledger :=
  match ledger.batch? id, ledger.worker? worker with
  | some batch, some state =>
    match batch.stage with
    | .counted =>
      some (ledger.setStage id (.waiting (if state.senderHeld then some worker else none)))
    | _ => none
  | _, _ => none

def deliver (ledger : Ledger) (id : Nat) (outcome : Outcome) : Option Ledger :=
  match ledger.batch? id with
  | some batch => if batch.delivered.isNone then some (ledger.setDelivered id outcome) else none
  | none => none

def receive (ledger : Ledger) (id : Nat) : Option Ledger :=
  match ledger.batch? id with
  | some batch =>
    match batch.stage, batch.delivered with
    | .waiting worker, some outcome => some (ledger.setStage id (.received outcome worker))
    | _, _ => none
  | none => none

/-- The channel is still open, or the forwarding task has to run the callback. -/
def upgrade (ledger : Ledger) (id : Nat) : Option Ledger :=
  match ledger.batch? id with
  | some batch =>
    match batch.stage with
    | .received outcome (some worker) =>
      if ledger.isOpen worker then some (ledger.setStage id (.sending outcome worker))
      else some (ledger.setStage id (.inline outcome))
    | .received outcome none => some (ledger.setStage id (.inline outcome))
    | _ => none
  | none => none

/-- A worker that has ended takes nothing, and the outcome comes back. -/
def send (ledger : Ledger) (id : Nat) : Option Ledger :=
  match ledger.batch? id with
  | some batch =>
    match batch.stage with
    | .sending outcome worker =>
      match ledger.worker? worker with
      | some state =>
        if state.task = .ended then some (ledger.setStage id (.inline outcome))
        else some ((ledger.removeBatch id).setWorker worker
          { state with queue := state.queue ++ [(id, outcome)] })
      | none => none
    | _ => none
  | none => none

def settleInline (ledger : Ledger) (id : Nat) : Option Ledger :=
  match ledger.batch? id with
  | some batch =>
    match batch.stage with
    | .inline outcome => some ((ledger.removeBatch id).complete outcome)
    | _ => none
  | none => none

def start (ledger : Ledger) : Ledger :=
  { ledger with workers := ledger.workers ++ [.fresh] }

def release (ledger : Ledger) (worker : Nat) : Option Ledger :=
  match ledger.worker? worker with
  | some state => some (ledger.setWorker worker { state with senderHeld := false })
  | none => none

/-- The worker runs the callback of the oldest batch in its queue. -/
def take (ledger : Ledger) (worker : Nat) : Option Ledger :=
  match ledger.worker? worker with
  | some state =>
    match state.task, state.queue with
    | .ended, _ => none
    | _, [] => none
    | _, (_, outcome) :: rest =>
      some ((ledger.setWorker worker { state with queue := rest }).complete outcome)
  | none => none

/-- The worker ends because its channel is closed and empty. -/
def finish (ledger : Ledger) (worker : Nat) : Option Ledger :=
  match ledger.worker? worker with
  | some state =>
    if state.task ≠ .ended ∧ state.queue = [] ∧ ¬ledger.isOpen worker then
      some ((ledger.setWorker worker { state with task := .ended }).enter .workerDrained)
    else none
  | none => none

def cancel (ledger : Ledger) (worker : Nat) : Option Ledger :=
  match ledger.worker? worker with
  | some state =>
    if state.task = .running then some (ledger.setWorker worker { state with task := .cancelling })
    else none
  | none => none

/-- A cancelled worker ends, and with it goes its queue. -/
def abort (ledger : Ledger) (worker : Nat) : Option Ledger :=
  match ledger.worker? worker with
  | some state =>
    if state.task = .cancelling then
      let ended := ledger.setWorker worker { state with task := .ended, queue := [] }
      some { ended with discarded := ledger.discarded ++ state.queue.map (·.1) }
    else none
  | none => none

/-- The ledger after a step that can be taken in it. -/
def step? (ledger : Ledger) : Step → Option Ledger
  | .count delivered => some (ledger.count delivered)
  | .attach batch worker => ledger.attach batch worker
  | .deliver batch outcome => ledger.deliver batch outcome
  | .receive batch => ledger.receive batch
  | .upgrade batch => ledger.upgrade batch
  | .send batch => ledger.send batch
  | .settleInline batch => ledger.settleInline batch
  | .start => some ledger.start
  | .release worker => ledger.release worker
  | .take worker => ledger.take worker
  | .finish worker => ledger.finish worker
  | .cancel worker => ledger.cancel worker
  | .abort worker => ledger.abort worker

/-- A step that cannot be taken changes nothing. -/
def attempt (ledger : Ledger) (step : Step) : Ledger :=
  (ledger.step? step).getD ledger

def attempts (ledger : Ledger) (steps : List Step) : Ledger :=
  steps.foldl attempt ledger

def queue (ledger : Ledger) (worker : Nat) : List (Nat × Outcome) :=
  match ledger.worker? worker with
  | some state => state.queue
  | none => []

def hasEnded (ledger : Ledger) (worker : Nat) : Bool :=
  match ledger.worker? worker with
  | some state => state.task = .ended
  | none => true

end Ledger

/-- The ledgers that some sequence of steps leads to, whatever tasks the steps belong to. -/
inductive Reachable : List Step → Ledger → Prop where
  | start : Reachable [] .empty
  | next {steps : List Step} {ledger later : Ledger} {step : Step} :
    Reachable steps ledger → ledger.step? step = some later → Reachable (steps ++ [step]) later

end CheckpointSink.Settlement
