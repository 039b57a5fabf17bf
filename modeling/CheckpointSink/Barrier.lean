import CheckpointSink.Event
import CheckpointSink.Sleep

/-!
Waiting until nothing is outstanding. The count is polled at fixed intervals until it is zero or
below, or until the timeout has passed at a poll.
-/

namespace CheckpointSink

inductive WaitOutcome where
  | skipped
  | drained
  | timedOut
  deriving DecidableEq

def WaitOutcome.name : WaitOutcome → String
  | skipped => "Skipped"
  | drained => "Drained"
  | timedOut => "TimedOut"

/-- The end of a wait, with the count that the last poll read. -/
structure WaitState where
  outcome : WaitOutcome
  elapsedMs : Nat
  pending : Int
  deriving DecidableEq

def WaitState.skipped : WaitState := ⟨.skipped, 0, 0⟩

structure Barrier where
  timeoutMs : Nat
  intervalMs : Nat
  deriving DecidableEq

namespace Barrier

/-- What a poll decides: the end of the wait, or another interval. A count that has reached zero
comes before the timeout. -/
def judge (barrier : Barrier) (elapsedMs : Nat) (pending : Int) : Option WaitState :=
  if pending ≤ 0 then some ⟨.drained, elapsedMs, pending⟩
  else if barrier.timeoutMs ≤ elapsedMs then some ⟨.timedOut, elapsedMs, pending⟩
  else none

/-- What a poll reports. -/
def report (barrier : Barrier) (elapsedMs : Nat) (pending : Int) : Event :=
  if pending ≤ 0 then .waitSucceeded (Event.reportedMs elapsedMs)
  else if barrier.timeoutMs ≤ elapsedMs then
    .waitTimedOut (Event.reportedMs barrier.timeoutMs) pending
  else .waiting pending (Event.reportedMs barrier.intervalMs)

/-- The time from one poll to the next. -/
def stepMs (barrier : Barrier) : Nat :=
  Sleep.lengthMs barrier.intervalMs

/-- The polls after which the timeout has passed in any case, for an interval above zero. -/
def pollBound (barrier : Barrier) : Nat :=
  barrier.timeoutMs / barrier.stepMs + 2

end Barrier

/-- A count that can be read, in surroundings where time can pass and reports are entered. -/
structure PolledCount (σ : Type) where
  read : σ → Int × σ
  pass : Nat → σ → σ
  enter : Event → σ → σ

/-- At most the given number of polls; nothing is returned if none of them ends the wait. -/
def drain {σ : Type} (count : PolledCount σ) (barrier : Barrier) :
    Nat → Nat → σ → Option WaitState × σ
  | 0, _, state => (none, state)
  | polls + 1, elapsedMs, state =>
    let reading := count.read state
    let reported := count.enter (barrier.report elapsedMs reading.1) reading.2
    match barrier.judge elapsedMs reading.1 with
    | some result => (some result, reported)
    | none =>
      drain count barrier polls (elapsedMs + barrier.stepMs) (count.pass barrier.stepMs reported)

/-- Readings known beforehand; the last one repeats. -/
structure Readings where
  next : List Int
  last : Int
  /-- The readings taken so far. -/
  taken : Nat
  /-- The newest report first. -/
  reports : List Event
  deriving DecidableEq

namespace Readings

def ofList (readings : List Int) : Readings :=
  ⟨readings, readings.getLastD 0, 0, []⟩

def count : PolledCount Readings where
  read state :=
    match state.next with
    | [] => (state.last, { state with taken := state.taken + 1 })
    | reading :: rest => (reading, { state with next := rest, taken := state.taken + 1 })
  pass _ state := state
  enter event state := { state with reports := event :: state.reports }

/-- One wait, with its reports in order. -/
def wait (barrier : Barrier) (state : Readings) : Option WaitState × List Event × Readings :=
  let result := drain count barrier (barrier.pollBound + state.next.length) 0
    { state with reports := [] }
  (result.1, result.2.reports.reverse, result.2)

/-- Waits in a row on the same readings, each with the readings taken up to its end. -/
def waits (barrier : Barrier) : Nat → Readings → List (Option WaitState × List Event × Nat)
  | 0, _ => []
  | times + 1, state =>
    let result := wait barrier state
    (result.1, result.2.1, result.2.2.taken) :: waits barrier times result.2.2

end Readings
end CheckpointSink
