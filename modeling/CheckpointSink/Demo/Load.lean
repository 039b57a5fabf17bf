import CheckpointSink.Demo.Printer
import CheckpointSink.Options.Environment
import CheckpointSink.Schema.Flattening

/-!
Two programs that send many elements to a client which acknowledges all of them at once.
-/

namespace CheckpointSink.Demo

open CheckpointSink.Json CheckpointSink.Number

def elementCount : Nat := 100000

def outcomeText : SessionAnswer → String
  | .waited state => state.outcome.name
  | _ => ""

/-- The session is opened, given the elements, taken to a checkpoint and closed. -/
def loadLines {ε : Type} (title : String) (level : Level) (screen : Screen)
    (preparations : List (SessionStep ε)) (elements : List ε) (session : Session ε) : List String :=
  let opened := (Printer.mk screen level session []).actAll preparations
  let sent := (opened.actAll (elements.map .invoke)).print
    [title ++ ": sent " ++ natText elements.length ++ " elements in " ++ screen.duration ++
      " (~" ++ screen.rate ++ " el/s)"]
  let waited := sent.act .snapshot
  let closed := (waited.2.print
    ["checkpoint: " ++ outcomeText waited.1.answer ++ " after " ++ screen.duration]).act .close
  closed.2.lines

def loadSession {ε : Type} (clock : UInt32) (settings : Settings)
    (schema : UInt32 → ε → Option LogGroup) : Session ε :=
  .new clock (.fresh .discarding false) (.new settings schema)

def countedProperties : Properties :=
  ⟨[("log.project", "load-test"), ("log.logstore", "default"), ("log.endpoint", "localhost"),
    ("log.access-key-id", "id"), ("log.access-key", "key")]⟩

def countedGroup (clock : UInt32) (number : Nat) : Option LogGroup :=
  some ⟨[.ofPairs clock [("iteration", natText number)]], "load", "default_load"⟩

/-- A sink with standard settings that counts. -/
def countedLoad (clock : UInt32) (machineThreads : Nat) (screen : Screen) :
    Except OptionError (List String) :=
  (Settings.ofProperties machineThreads countedProperties).map fun settings =>
    loadLines "default config" .info screen [.openAt ⟨0, 1⟩] (List.range elementCount)
      (loadSession clock settings countedGroup)

/-- The variables that configure the second program. -/
def requestVariables : List (String × String) :=
  [("LOG_PROJECT", "load-test"), ("LOG_LOGSTORE", "requests"), ("LOG_ENDPOINT", "localhost"),
    ("LOG_ACCESS_KEY_ID", "id"), ("LOG_ACCESS_KEY", "key"),
    ("LOG_PRODUCER_FLUSH_TIMEOUT_MS", "2000"), ("LOG_PRODUCER_IO_THREAD_COUNT", "4")]

def variableProperties : Properties :=
  Environment.properties fun name => requestVariables.lookup name

def requestElement (number : Nat) : Element :=
  .value (.object [("ts", .integer (1700000000 + number)), ("path", .string "/api/orders"),
    ("status", .integer (if number % 100 = 0 then 500 else 200)),
    ("latency_ms", .integer (number % 250))])

def requestSchema : JsonSchema := ⟨"http", "custom_load", some "ts"⟩

def requestGroup (clock : UInt32) (element : Element) : Option LogGroup :=
  (requestSchema.serialize clock element).toOption

/-- A sink configured from the environment that flattens JSON and shards by instance. -/
def requestLoad (clock : UInt32) (machineThreads : Nat) (screen : Screen) :
    Except OptionError (List String) :=
  (Settings.ofProperties machineThreads variableProperties).map
    fun settings =>
      loadLines "custom config" .warn screen
        [.setPartitioner .bySlice, .openAt ⟨3, 8⟩]
        ((List.range elementCount).map requestElement)
        (loadSession clock ((settings.withPollInterval 20).withShutdownGrace 1000) requestGroup)

end CheckpointSink.Demo
