/-!
The options of a sink, in the order in which an environment is asked for them.
-/

namespace CheckpointSink

inductive OptionKey where
  | project
  | logstore
  | endpoint
  | accessKeyId
  | accessKey
  | lingerMs
  | maxRetries
  | baseRetryBackoffMs
  | maxRetryBackoffMs
  | maxBlockMs
  | threadCount
  | buckets
  | totalSizeInBytes
  | adjustShardHash
  | flushTimeoutMs
  deriving DecidableEq

namespace OptionKey

def all : List OptionKey :=
  [project, logstore, endpoint, accessKeyId, accessKey, lingerMs, maxRetries, baseRetryBackoffMs,
    maxRetryBackoffMs, maxBlockMs, threadCount, buckets, totalSizeInBytes, adjustShardHash,
    flushTimeoutMs]

def name : OptionKey → String
  | project => "log.project"
  | logstore => "log.logstore"
  | endpoint => "log.endpoint"
  | accessKeyId => "log.access-key-id"
  | accessKey => "log.access-key"
  | lingerMs => "log.producer.linger-ms"
  | maxRetries => "log.producer.max-retries"
  | baseRetryBackoffMs => "log.producer.base-retry-backoff-ms"
  | maxRetryBackoffMs => "log.producer.max-retry-backoff-ms"
  | maxBlockMs => "log.producer.max-block-ms"
  | threadCount => "log.producer.io-thread-count"
  | buckets => "log.producer.buckets"
  | totalSizeInBytes => "log.producer.total-size-in-bytes"
  | adjustShardHash => "log.producer.adjust-shard-hash"
  | flushTimeoutMs => "log.producer.flush-timeout-ms"

theorem mem_all (key : OptionKey) : key ∈ all := by
  cases key <;> decide

end OptionKey
end CheckpointSink
