import CheckpointSink.Settlement.Timeline

/-!
The worker that runs the callbacks, in the hands of whoever started it: batches are attached to it,
and it is stopped, within a grace period or at once.
-/

namespace CheckpointSink.Settlement

/-- A started worker. Its end can be awaited once. -/
structure WorkerHandle where
  worker : Nat
  awaitable : Bool
  deriving DecidableEq

namespace WorkerHandle

def start (timeline : Timeline) : WorkerHandle × Timeline :=
  let worker := timeline.ledger.workers.length
  (⟨worker, true⟩, (timeline.perform [.start]).wake (.work worker))

/-- A counted batch goes the way to its callback by the worker. -/
def submit (handle : WorkerHandle) (delivered : Option Outcome) (timeline : Timeline) : Timeline :=
  timeline.submit delivered handle.worker

def release (handle : WorkerHandle) (timeline : Timeline) : Timeline :=
  (timeline.perform [.release handle.worker]).wake (.work handle.worker)

def cancel (handle : WorkerHandle) (timeline : Timeline) : Timeline :=
  (timeline.perform [.cancel handle.worker]).wake (.work handle.worker)

/-- Time goes from deadline to deadline until the worker has ended, or until a given time. -/
def awaitEnd (handle : WorkerHandle) : Nat → Nat → Timeline → Timeline
  | 0, untilMs, timeline => { timeline with nowMs := untilMs }
  | deadlines + 1, untilMs, timeline =>
    if timeline.ledger.hasEnded handle.worker then timeline
    else
      match timeline.nextDeadline? untilMs with
      | none => { timeline with nowMs := untilMs }
      | some deadlineMs => handle.awaitEnd deadlines untilMs (timeline.fire deadlineMs)

/-- The grace period of the worker, which is over as soon as it has ended. Without one, no task gets
to run. -/
def within (handle : WorkerHandle) (graceMs : Nat) (timeline : Timeline) : Timeline :=
  if graceMs = 0 then timeline
  else
    let lengthMs := Sleep.lengthMs graceMs
    handle.awaitEnd (lengthMs + 1) (timeline.nowMs + lengthMs) timeline.runReady

/-- The worker has not ended in its grace period: it is cancelled and gets another. -/
def stopLate (handle : WorkerHandle) (graceMs : Nat) (timeline : Timeline) : Timeline :=
  let warned := timeline.enter (.workerLate (Event.reportedMs graceMs) timeline.pending)
  let cancelled := handle.within graceMs (handle.cancel warned)
  if cancelled.ledger.hasEnded handle.worker then cancelled else cancelled.enter .workerStuck

/-- Nothing more is taken, and the end of the worker is awaited unless it was before. -/
def shutdown (handle : WorkerHandle) (graceMs : Nat) (timeline : Timeline) :
    WorkerHandle × Timeline :=
  let released := handle.release timeline
  if handle.awaitable then
    let later := handle.within graceMs released
    let stopped :=
      if later.ledger.hasEnded handle.worker then later else handle.stopLate graceMs later
    ({ handle with awaitable := false }, stopped)
  else (handle, released)

/-- The worker is left alone, which ends it unless its end was awaited before. -/
def drop (handle : WorkerHandle) (timeline : Timeline) : Timeline :=
  if handle.awaitable then handle.release (handle.cancel timeline) else handle.release timeline

end WorkerHandle
end CheckpointSink.Settlement
