import CheckpointSink.Record.Log

/-!
Requests to the log service. An item lists the fields of one log in the order of their names.
-/

namespace CheckpointSink

structure LogItem where
  time : UInt32
  contents : List (String × String)
  deriving DecidableEq

def LogItem.ofLog (log : Log) : LogItem :=
  ⟨log.time, log.contents.entries⟩

def LogGroup.items (group : LogGroup) : List LogItem :=
  group.logs.map LogItem.ofLog

/-- A batch for one store of one project. -/
structure LogRequest where
  project : String
  logstore : String
  topic : String
  source : String
  shardHashKey : Option String
  items : List LogItem
  deriving DecidableEq

end CheckpointSink
