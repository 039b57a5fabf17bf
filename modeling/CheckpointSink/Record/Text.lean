import CheckpointSink.Delivery.Result
import CheckpointSink.Json.Writer
import CheckpointSink.Record.Request

/-!
Records as JSON. The members stand in the order of the fields, not in that of their names.
-/

namespace CheckpointSink

open CheckpointSink.Json

def optionalString : Option String → Value
  | none => .null
  | some value => .string value

def Log.json (log : Log) : Value :=
  .object [("time", .integer log.time.toNat),
    ("contents", .object (log.contents.entries.map fun entry => (entry.1, .string entry.2)))]

def LogGroup.json (group : LogGroup) : Value :=
  .object [("logs", .array (group.logs.map Log.json)), ("topic", .string group.topic),
    ("source", .string group.source)]

def LogItem.json (item : LogItem) : Value :=
  .object [("time", .integer item.time.toNat),
    ("contents", .array (item.contents.map fun entry =>
      .array [.string entry.1, .string entry.2]))]

def LogRequest.json (request : LogRequest) : Value :=
  .object [("project", .string request.project), ("logstore", .string request.logstore),
    ("topic", .string request.topic), ("source", .string request.source),
    ("shard_hash_key", optionalString request.shardHashKey),
    ("items", .array (request.items.map LogItem.json))]

def SendResult.json (result : SendResult) : Value :=
  .object [("successful", .bool result.successful),
    ("attempt_count", .integer result.attempts.toNat),
    ("error_code", optionalString result.errorCode),
    ("error_message", optionalString result.errorMessage)]

end CheckpointSink
