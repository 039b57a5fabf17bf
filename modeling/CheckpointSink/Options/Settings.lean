import CheckpointSink.Options.Properties
import CheckpointSink.Text.Quoted

/-!
The settings of a sink, read from properties. The options are checked in a fixed order, so of
several faults the first in that order is the one reported.
-/

namespace CheckpointSink

open CheckpointSink.Number CheckpointSink.Text

/-- Where the logs go, and as whom the client presents itself. -/
structure Destination where
  project : String
  endpoint : String
  accessKeyId : String
  accessKey : String
  deriving DecidableEq

structure ClientSettings where
  lingerMs : Nat
  maxRetries : Nat
  baseRetryBackoffMs : Nat
  maxRetryBackoffMs : Nat
  maxBlockMs : Nat
  threadCount : Nat
  buckets : Nat
  totalSizeInBytes : Nat
  adjustShardHash : Bool
  deriving DecidableEq

structure Settings where
  destination : Destination
  logstore : String
  client : ClientSettings
  flushTimeoutMs : Nat
  pollIntervalMs : Nat
  shutdownGraceMs : Nat
  deriving DecidableEq

namespace Destination

/-- The fields as they may be shown; the access key never is. -/
def shownFields (destination : Destination) : List (String × String) :=
  [("project", quoted destination.project), ("endpoint", quoted destination.endpoint),
    ("access_key_id", quoted destination.accessKeyId), ("access_key", quoted "<redacted>")]

def shown (destination : Destination) : String :=
  "ProjectConfig \x7b " ++
    String.intercalate ", " (destination.shownFields.map fun field => field.1 ++ ": " ++ field.2) ++
    " \x7d"

/-- One field a line. -/
def shownInLines (destination : Destination) : String :=
  "ProjectConfig \x7b\n" ++
    String.join (destination.shownFields.map fun field =>
      "    " ++ field.1 ++ ": " ++ field.2 ++ ",\n") ++
    "\x7d"

end Destination

namespace ClientSettings

/-- The number of threads is by default that of the machine. -/
def standard (machineThreads : Nat) : ClientSettings where
  lingerMs := 2000
  maxRetries := 10
  baseRetryBackoffMs := 100
  maxRetryBackoffMs := 50000
  maxBlockMs := 60000
  threadCount := machineThreads
  buckets := 64
  totalSizeInBytes := 100 * 1024 * 1024
  adjustShardHash := true

end ClientSettings

namespace Settings

def standardFlushTimeoutMs : Nat := 10000

def standardPollIntervalMs : Nat := 100

def standardShutdownGraceMs : Nat := 3000

def readDestination (properties : Properties) : Except OptionError Destination := do
  let project ← properties.text OptionKey.project.name
  let endpoint ← properties.text OptionKey.endpoint.name
  let accessKeyId ← properties.text OptionKey.accessKeyId.name
  let accessKey ← properties.text OptionKey.accessKey.name
  return ⟨project, endpoint, accessKeyId, accessKey⟩

def readClient (properties : Properties) (standard : ClientSettings) :
    Except OptionError ClientSettings := do
  let lingerMs ← properties.naturalOr 64 OptionKey.lingerMs.name standard.lingerMs
  let maxRetries ← properties.naturalOr 32 OptionKey.maxRetries.name standard.maxRetries
  let baseRetryBackoffMs ←
    properties.naturalOr 64 OptionKey.baseRetryBackoffMs.name standard.baseRetryBackoffMs
  let maxRetryBackoffMs ←
    properties.naturalOr 64 OptionKey.maxRetryBackoffMs.name standard.maxRetryBackoffMs
  let maxBlockMs ← properties.naturalOr 64 OptionKey.maxBlockMs.name standard.maxBlockMs
  let threadCount ← properties.naturalOr 64 OptionKey.threadCount.name standard.threadCount
  let buckets ← properties.naturalOr 32 OptionKey.buckets.name standard.buckets
  let totalSizeInBytes ←
    properties.naturalOr 64 OptionKey.totalSizeInBytes.name standard.totalSizeInBytes
  let adjustShardHash ←
    properties.flagOr OptionKey.adjustShardHash.name standard.adjustShardHash
  return ⟨lingerMs, maxRetries, baseRetryBackoffMs, maxRetryBackoffMs, maxBlockMs, threadCount,
    buckets, totalSizeInBytes, adjustShardHash⟩

def checkBackoff (client : ClientSettings) : Except OptionError Unit :=
  if client.maxRetryBackoffMs < client.baseRetryBackoffMs then
    .error (.invalid OptionKey.baseRetryBackoffMs.name (natText client.baseRetryBackoffMs)
      ("must not exceed " ++ OptionKey.maxRetryBackoffMs.name ++ " (" ++
        natText client.maxRetryBackoffMs ++ ")"))
  else .ok ()

def checkThreads (client : ClientSettings) : Except OptionError Unit :=
  if client.threadCount = 0 then
    .error (.invalid OptionKey.threadCount.name (natText client.threadCount) "must be at least 1")
  else .ok ()

def ofProperties (machineThreads : Nat) (properties : Properties) :
    Except OptionError Settings := do
  let destination ← readDestination properties
  let logstore ← properties.text OptionKey.logstore.name
  let client ← readClient properties (.standard machineThreads)
  checkBackoff client
  checkThreads client
  let flushTimeoutMs ←
    properties.naturalOr 64 OptionKey.flushTimeoutMs.name standardFlushTimeoutMs
  return ⟨destination, logstore, client, flushTimeoutMs, standardPollIntervalMs,
    standardShutdownGraceMs⟩

def withPollInterval (settings : Settings) (milliseconds : Nat) : Settings :=
  { settings with pollIntervalMs := milliseconds }

def withShutdownGrace (settings : Settings) (milliseconds : Nat) : Settings :=
  { settings with shutdownGraceMs := milliseconds }

end Settings
end CheckpointSink
