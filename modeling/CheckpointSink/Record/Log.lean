import CheckpointSink.Fields

/-!
Logs and groups of logs as a schema makes them.
-/

namespace CheckpointSink

structure Log where
  /-- Seconds of the Unix epoch. -/
  time : UInt32
  contents : FieldMap String
  deriving DecidableEq

namespace Log

def stamped (time : UInt32) : Log :=
  ⟨time, .empty⟩

def withField (log : Log) (name value : String) : Log :=
  { log with contents := log.contents.insert name value }

/-- The fields are set one after the other, so the last value of a name stays. -/
def ofPairs (time : UInt32) (pairs : List (String × String)) : Log :=
  ⟨time, .ofPairs pairs⟩

end Log

/-- Logs that share a topic and a source and are shipped together. -/
structure LogGroup where
  logs : List Log
  topic : String
  source : String
  deriving DecidableEq

end CheckpointSink
