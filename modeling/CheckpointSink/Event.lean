import CheckpointSink.Delivery.Message
import CheckpointSink.Schema.Element

/-!
What a sink reports of its work, with the level and the fields of each report.
-/

namespace CheckpointSink

inductive Level where
  | error
  | warn
  | info
  | debug
  | trace
  deriving DecidableEq

namespace Level

def name : Level → String
  | error => "ERROR"
  | warn => "WARN"
  | info => "INFO"
  | debug => "DEBUG"
  | trace => "TRACE"

/-- A level shows itself and every graver one. -/
def verbosity : Level → Nat
  | error => 0
  | warn => 1
  | info => 2
  | debug => 3
  | trace => 4

def shows (most level : Level) : Bool :=
  level.verbosity ≤ most.verbosity

end Level

inductive FieldValue where
  /-- Quoted where it is printed. -/
  | text (value : String)
  | plain (value : String)
  | number (value : Int)
  /-- A time taken from the clock. -/
  | measured (milliseconds : Nat)
  deriving DecidableEq

inductive Event where
  | batchRefused (code message : String) (attempts : UInt32)
  | batchFailed (error : ClientError)
  | workerDrained
  | workerLate (graceMs : Nat) (pending : Int)
  | workerStuck
  | waitSucceeded (usedMs : Nat)
  | waitTimedOut (timeoutMs : Nat) (pending : Int)
  | waiting (pending : Int) (sleepMs : Nat)
  | sinkOpened (project logstore : String) (index parallelism : Nat)
  | nothingToSend
  | sendFailed (error : ClientError)
  | clientCloseFailed (error : ClientError)
  | sinkClosed (pending : Int)
  | elementSkipped (error : ElementError)
  deriving DecidableEq

namespace Event

/-- A duration as it stands in reports, in 64 bits. -/
def reportedMs (durationMs : Nat) : Nat := durationMs % UInt64.size

@[simp] theorem reportedMs_zero : reportedMs 0 = 0 := rfl

def level : Event → Level
  | batchRefused .. => .error
  | batchFailed _ => .error
  | workerDrained => .debug
  | workerLate .. => .warn
  | workerStuck => .warn
  | waitSucceeded _ => .info
  | waitTimedOut .. => .warn
  | waiting .. => .debug
  | sinkOpened .. => .info
  | nothingToSend => .debug
  | sendFailed _ => .error
  | clientCloseFailed _ => .warn
  | sinkClosed _ => .info
  | elementSkipped _ => .warn

/-- The part of the program that reports it. -/
def target : Event → String
  | batchRefused .. => "log_producer_sink::callback"
  | batchFailed _ => "log_producer_sink::callback"
  | workerDrained => "log_producer_sink::callback"
  | workerLate .. => "log_producer_sink::callback"
  | workerStuck => "log_producer_sink::callback"
  | waitSucceeded _ => "log_producer_sink::barrier"
  | waitTimedOut .. => "log_producer_sink::barrier"
  | waiting .. => "log_producer_sink::barrier"
  | sinkOpened .. => "log_producer_sink::producer_sink"
  | nothingToSend => "log_producer_sink::producer_sink"
  | sendFailed _ => "log_producer_sink::producer_sink"
  | clientCloseFailed _ => "log_producer_sink::producer_sink"
  | sinkClosed _ => "log_producer_sink::producer_sink"
  | elementSkipped _ => "log_producer_sink::schema::json"

def message : Event → String
  | batchRefused .. => "send logs failed"
  | batchFailed _ => "send logs failed"
  | workerDrained => "callback worker drained"
  | workerLate .. => "callback worker did not drain in time, aborting"
  | workerStuck => "stop callback worker failed"
  | waitSucceeded _ => "snapshot state succeeded"
  | waitTimedOut .. => "wait for snapshot state timed out"
  | waiting .. => "waiting for outstanding batches to flush"
  | sinkOpened .. => "log producer sink opened"
  | nothingToSend => "serialized log group is empty, nothing sent"
  | sendFailed _ => "error while sending logs"
  | clientCloseFailed _ => "error while closing log producer"
  | sinkClosed _ => "log producer sink has been closed"
  | elementSkipped _ => "failed to serialize element, skipping"

def fields : Event → List (String × FieldValue)
  | batchRefused code message attempts =>
    [("code", .text code), ("error_message", .text message), ("retries", .number attempts.toNat)]
  | batchFailed error => [("error", .plain error.message)]
  | workerDrained => []
  | workerLate graceMs pending => [("grace_ms", .number graceMs), ("pending", .number pending)]
  | workerStuck => []
  | waitSucceeded usedMs => [("used_ms", .measured usedMs)]
  | waitTimedOut timeoutMs pending =>
    [("timeout_ms", .number timeoutMs), ("pending", .number pending)]
  | waiting pending sleepMs => [("pending", .number pending), ("sleep_ms", .number sleepMs)]
  | sinkOpened project logstore index parallelism =>
    [("project", .plain project), ("logstore", .plain logstore), ("index", .number index),
      ("parallelism", .number parallelism)]
  | nothingToSend => []
  | sendFailed error => [("error", .plain error.message)]
  | clientCloseFailed error => [("error", .plain error.message)]
  | sinkClosed pending => [("pending", .number pending)]
  | elementSkipped error => [("error", .plain error.message)]

end Event

/-- What is entered while batches settle: events, each with the count of outstanding batches at that
moment, and decrements that found nothing outstanding. -/
inductive Entry where
  | event (event : Event) (pending : Int)
  | underflow
  deriving DecidableEq

def Entry.event? : Entry → Option Event
  | .event report _ => some report
  | .underflow => none

end CheckpointSink
