import CheckpointSink.Demo.Printer

/-!
A program with a client of its own, which prints every batch and acknowledges it after a delay.
-/

namespace CheckpointSink.Demo

open CheckpointSink.Number CheckpointSink.Settlement

/-- A batch that the service prints and acknowledges at some time. -/
structure Acknowledgement where
  dueMs : Nat
  batch : Nat
  line : String

structure DelayedService where
  printer : Printer String
  /-- In the order of the sends. -/
  due : List Acknowledgement

namespace DelayedService

def delayMs : Nat := 300

def properties : Properties :=
  ⟨[("log.project", "my-project"), ("log.logstore", "orders"), ("log.endpoint", "localhost"),
    ("log.access-key-id", "id"), ("log.access-key", "key"),
    ("log.producer.flush-timeout-ms", "5000")]⟩

def group (clock : UInt32) (line : String) : Option LogGroup :=
  some ⟨[.ofPairs clock [("message", line)]], "orders", "custom_producer"⟩

def requestLine (request : LogRequest) : String :=
  "[my-log-service] " ++ request.project ++ "/" ++ request.logstore ++ " topic=" ++
    request.topic ++ " items=" ++ natText request.items.length

/-- An element is sent, and the service notes when to acknowledge it. -/
def send (service : DelayedService) (element : String) : DelayedService :=
  let timeline := service.printer.session.timeline
  let sent := service.printer.act (.invoke element)
  let requests := service.printer.session.client.shownRequests sent.1.calls
  ⟨sent.2, service.due ++ requests.map fun request =>
    ⟨timeline.nowMs + delayMs, timeline.ledger.next, requestLine request⟩⟩

def acknowledge (printer : Printer String) (given : Acknowledgement) : Printer String :=
  let later := printer.act (.sleep (given.dueMs - printer.session.timeline.nowMs))
  ((later.2.print [given.line]).act (.resolve [(given.batch, .answered (.success 1))])).2

/-- Time passes, in which the service acknowledges what is due. -/
def pass (service : DelayedService) (milliseconds : Nat) : DelayedService :=
  let endMs := service.printer.session.timeline.nowMs + milliseconds
  let printer := (service.due.filter fun given => given.dueMs ≤ endMs).foldl acknowledge
    service.printer.flush
  let later := printer.act (.sleep (endMs - printer.session.timeline.nowMs))
  ⟨later.2, service.due.filter fun given => endMs < given.dueMs⟩

def count : PolledCount DelayedService where
  read service := (service.printer.session.pending, service)
  pass milliseconds service := service.pass milliseconds
  enter event service :=
    let printer := service.printer
    { service with printer := { printer with session := printer.session.enter event } }

def ownNotice (message : String) (fields : List (String × FieldValue)) : Notice :=
  ⟨.info, "custom_producer", message, fields⟩

def onPrinter (service : DelayedService) (change : Printer String → Printer String) :
    DelayedService :=
  { service with printer := change service.printer }

/-- The notice of a checkpoint that is over. -/
def checkpointNotice (state : WaitState) : Notice :=
  ownNotice "checkpoint done"
    [("outcome", .plain state.outcome.name), ("elapsed_ms", .measured state.elapsedMs)]

def program (service : DelayedService) (elements : List String) : List String :=
  let opened := service.onPrinter fun printer => (printer.act (.openAt ⟨0, 1⟩)).2
  let sent := elements.foldl send opened
  let noticed := sent.onPrinter fun printer =>
    printer.notice (ownNotice "taking checkpoint" [("pending", .number printer.session.pending)])
  let barrier := noticed.printer.session.sink.barrier
  let waited := drain count barrier barrier.pollBound 0 noticed
  let checked := waited.2.onPrinter fun printer =>
    waited.1.elim printer.flush fun state => printer.flush.notice (checkpointNotice state)
  (checked.printer.act .close).2.lines

def elements : List String :=
  (List.range 5).map fun number => "order " ++ natText number ++ " failed"

def lines (clock : UInt32) (machineThreads : Nat) (screen : Screen) :
    Except OptionError (List String) :=
  (Settings.ofProperties machineThreads properties).map fun settings =>
    let session := Session.new clock (.fresh .scripted false) (.new settings group)
    program ⟨⟨screen, .info, session, []⟩, []⟩ elements

end DelayedService
end CheckpointSink.Demo
