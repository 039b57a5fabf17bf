import CheckpointSink.Barrier
import CheckpointSink.Settlement.Ledger

/-!
A ledger on a virtual clock. Tasks that can run do so in the order in which they became runnable,
and only when none is left does time move on to the next timer. Resolvers are in the hands of
whoever drives the clock until they are used.
-/

namespace CheckpointSink.Settlement

inductive Task where
  | forward (batch : Nat)
  | work (worker : Nat)
  | deliver (batch : Nat) (outcome : Outcome)
  /-- The next poll of a wait in the background. -/
  | poll (wait : Nat)
  deriving DecidableEq

structure Timer where
  deadlineMs : Nat
  task : Task
  deriving DecidableEq

/-- A wait in the background. -/
structure Wait where
  barrier : Barrier
  begunMs : Nat
  result : Option WaitState
  joined : Bool
  deriving DecidableEq

structure Timeline where
  ledger : Ledger
  nowMs : Nat
  /-- In the order of their setting. -/
  timers : List Timer
  ready : List Task
  /-- The batches whose resolvers can still be used. -/
  resolvers : List Nat
  waits : List Wait
  deriving DecidableEq

namespace Task

/-- The steps that a task tries when it runs. -/
def steps (ledger : Ledger) : Task → List Step
  | forward batch => [.receive batch, .upgrade batch, .send batch, .settleInline batch]
  | work worker =>
    if (ledger.worker? worker).any (fun state => state.task = .cancelling) then [.abort worker]
    else List.replicate (ledger.queue worker).length (.take worker) ++ [.finish worker]
  | deliver batch outcome => [.deliver batch outcome]
  | poll _ => []

/-- The tasks that a task wakes, given the ledger before and after it. -/
def wakes (before after : Ledger) : Task → List Task
  | forward batch =>
    match (before.batch? batch).map Batch.stage with
    | some (.waiting (some worker)) =>
      if (after.queue worker).isEmpty then [] else [work worker]
    | _ => []
  | deliver batch _ =>
    match (after.batch? batch).map Batch.stage with
    | some (.waiting _) => [forward batch]
    | _ => []
  | _ => []

/-- No task wakes others of its own weight. -/
def weight : Task → Nat
  | forward _ => 2
  | work _ => 1
  | deliver .. => 3
  | poll _ => 1

def totalWeight : List Task → Nat
  | [] => 0
  | task :: rest => task.weight + totalWeight rest

end Task

namespace Timeline

def empty : Timeline := ⟨.empty, 0, [], [], [], []⟩

def pending (timeline : Timeline) : Int := timeline.ledger.pending

def enter (timeline : Timeline) (event : Event) : Timeline :=
  { timeline with ledger := timeline.ledger.enter event }

def perform (timeline : Timeline) (steps : List Step) : Timeline :=
  { timeline with ledger := timeline.ledger.attempts steps }

def clearEntries (timeline : Timeline) : Timeline :=
  { timeline with ledger := { timeline.ledger with entries := [] } }

/-- A task that can already run is not entered again. -/
def wake (timeline : Timeline) (task : Task) : Timeline :=
  if task ∈ timeline.ready then timeline else { timeline with ready := timeline.ready ++ [task] }

def wakeAll (timeline : Timeline) (tasks : List Task) : Timeline :=
  tasks.foldl wake timeline

/-- The task sleeps before it runs. -/
def setTimer (timeline : Timeline) (delayMs : Nat) (task : Task) : Timeline :=
  { timeline with
    timers := timeline.timers ++ [⟨timeline.nowMs + Sleep.lengthMs delayMs, task⟩] }

/-- One poll of a wait, which sets a timer for the next if the wait goes on. -/
def pollWait (timeline : Timeline) (index : Nat) : Timeline :=
  match timeline.waits[index]? with
  | none => timeline
  | some wait =>
    let elapsedMs := timeline.nowMs - wait.begunMs
    let reported := timeline.enter (wait.barrier.report elapsedMs timeline.pending)
    match wait.barrier.judge elapsedMs timeline.pending with
    | some result => { reported with waits := reported.waits.set index { wait with result } }
    | none => reported.setTimer wait.barrier.intervalMs (.poll index)

def runTask (timeline : Timeline) (task : Task) : Timeline :=
  match task with
  | .poll index => timeline.pollWait index
  | _ =>
    let later := timeline.perform (task.steps timeline.ledger)
    later.wakeAll (task.wakes timeline.ledger later.ledger)

def runTasks : Nat → Timeline → Timeline
  | 0, timeline => timeline
  | turns + 1, timeline =>
    match timeline.ready with
    | [] => timeline
    | task :: rest => runTasks turns ({ timeline with ready := rest }.runTask task)

/-- Runs tasks until none can run. Every task wakes only lighter ones, so the weights bound the
turns. -/
def runReady (timeline : Timeline) : Timeline :=
  runTasks (Task.totalWeight timeline.ready) timeline

def earliest (deadlines : List Nat) : Option Nat :=
  deadlines.min?

/-- Time moves to a deadline, and its tasks run. -/
def fire (timeline : Timeline) (deadlineMs : Nat) : Timeline :=
  let due := timeline.timers.filter fun timer => timer.deadlineMs = deadlineMs
  let later := timeline.timers.filter fun timer => timer.deadlineMs ≠ deadlineMs
  ({ timeline with timers := later, nowMs := deadlineMs }.wakeAll (due.map Timer.task)).runReady

def nextDeadline? (timeline : Timeline) (untilMs : Nat) : Option Nat :=
  earliest ((timeline.timers.map Timer.deadlineMs).filter (· ≤ untilMs))

def fireUntil : Nat → Nat → Timeline → Timeline
  | 0, untilMs, timeline => { timeline with nowMs := untilMs }
  | deadlines + 1, untilMs, timeline =>
    match timeline.nextDeadline? untilMs with
    | none => { timeline with nowMs := untilMs }
    | some deadlineMs => fireUntil deadlines untilMs (timeline.fire deadlineMs)

/-- Some time passes. Timers at its very end fire too; no two deadlines before it are equal, so
their number is bounded by its length. -/
def pass (timeline : Timeline) (delayMs : Nat) : Timeline :=
  fireUntil (delayMs + 1) (timeline.nowMs + delayMs) timeline

def sleep (timeline : Timeline) (delayMs : Nat) : Timeline :=
  timeline.pass (Sleep.lengthMs delayMs)

/-! What can be done from outside -/

/-- A batch is counted and attached; its forwarding task can run. -/
def submit (timeline : Timeline) (delivered : Option Outcome) (worker : Nat) : Timeline :=
  let batch := timeline.ledger.next
  (timeline.perform [.count delivered, .attach batch worker]).wake (.forward batch)

def addResolver (timeline : Timeline) (batch : Nat) : Timeline :=
  { timeline with resolvers := timeline.resolvers ++ [batch] }

def hasResolver (timeline : Timeline) (batch : Nat) : Bool :=
  timeline.resolvers.contains batch

def removeResolver (timeline : Timeline) (batch : Nat) : Timeline :=
  { timeline with resolvers := timeline.resolvers.erase batch }

/-- A resolver is used, if it can be; the forwarding task of its batch can run. -/
def useResolver (timeline : Timeline) (batch : Nat) (outcome : Outcome) : Timeline :=
  if timeline.hasResolver batch then
    ((timeline.removeResolver batch).perform [.deliver batch outcome]).wake (.forward batch)
  else timeline

/-- Resolvers are used one after the other, and nothing happens in between. -/
def useResolvers (timeline : Timeline) (outcomes : List (Nat × Outcome)) : Timeline :=
  outcomes.foldl (fun timeline given => timeline.useResolver given.1 given.2) timeline

/-- A resolver is used, if it can be, and everything that follows happens. -/
def resolve (timeline : Timeline) (batch : Nat) (outcome : Outcome) : Bool × Timeline :=
  if timeline.hasResolver batch then (true, (timeline.useResolver batch outcome).runReady)
  else (false, timeline)

def resolveAll (timeline : Timeline) : List (Nat × Outcome) → List Bool × Timeline
  | [] => ([], timeline)
  | (batch, outcome) :: rest =>
    let first := timeline.resolve batch outcome
    let others := first.2.resolveAll rest
    (first.1 :: others.1, others.2)

/-- A resolver is taken now and used later. -/
def resolveAfter (timeline : Timeline) (batch delayMs : Nat) (outcome : Outcome) :
    Bool × Timeline :=
  if timeline.hasResolver batch then
    (true, ((timeline.removeResolver batch).setTimer delayMs (.deliver batch outcome)).pass 0)
  else (false, timeline)

/-- The count of a timeline, for a wait in the foreground. -/
def count : PolledCount Timeline where
  read timeline := (timeline.pending, timeline)
  pass delayMs timeline := timeline.pass delayMs
  enter event timeline := timeline.enter event

def wait (timeline : Timeline) (barrier : Barrier) : Option WaitState × Timeline :=
  drain count barrier barrier.pollBound 0 timeline

/-- A wait in the background, with the number by which it is known. -/
def spawnWait (timeline : Timeline) (barrier : Barrier) : Nat × Timeline :=
  let index := timeline.waits.length
  let wait : Wait := ⟨barrier, timeline.nowMs, none, false⟩
  let spawned := { timeline with waits := timeline.waits ++ [wait] }
  (index, (spawned.wake (.poll index)).runReady)

/-- The state of a wait in the background: known to be joined, or whether it is over. -/
def waitState (timeline : Timeline) (index : Nat) : Option (Option Bool) :=
  (timeline.waits[index]?).map fun wait => if wait.joined then none else some wait.result.isSome

def passUntilOver (index : Nat) : Nat → Timeline → Timeline
  | 0, timeline => timeline
  | deadlines + 1, timeline =>
    if (timeline.waits[index]?).any (fun wait => wait.result.isSome) then timeline
    else
      match earliest (timeline.timers.map Timer.deadlineMs) with
      | none => timeline
      | some deadlineMs => passUntilOver index deadlines (timeline.fire deadlineMs)

/-- The end of a wait in the background, for which time passes if need be. A wait is joined once. -/
def join (timeline : Timeline) (index : Nat) : Option WaitState × Timeline :=
  match timeline.waits[index]? with
  | none => (none, timeline)
  | some wait =>
    if wait.joined then (none, timeline)
    else
      let bound := wait.begunMs + wait.barrier.timeoutMs + wait.barrier.stepMs + 1
      let later := passUntilOver index (bound - timeline.nowMs) timeline
      match later.waits[index]? with
      | none => (none, later)
      | some ended =>
        (ended.result, { later with waits := later.waits.set index { ended with joined := true } })

end Timeline
end CheckpointSink.Settlement
