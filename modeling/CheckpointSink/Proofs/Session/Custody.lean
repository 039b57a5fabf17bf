import CheckpointSink.Proofs.Session.Calls
import CheckpointSink.Proofs.Settlement.Staff

/-!
What can be known of the batches of a sink from outside. Whoever watches the steps and their reports
knows which batches were accepted and which resolvers can still be used, and the count is the number
of these.
-/

namespace CheckpointSink

open CheckpointSink.Settlement

variable {ε : Type}

/-- What the steps and the reports of a session say about its batches. -/
structure Custody where
  kind : ClientKind
  /-- The outcome that accepted batches have at once. -/
  automatic : Option Outcome
  /-- What a close makes of the resolvers that are left. -/
  closing : Closing
  /-- The batches that were accepted in all sessions of the sink so far. -/
  accepted : Nat
  /-- The batches whose resolvers were neither used nor dropped nor taken for later. -/
  held : List Nat
  /-- The batches whose resolvers were taken for a time that has not come. -/
  delayed : List (Nat × Nat)

def Call.isAccepted : Call → Bool
  | send _ _ none => true
  | _ => false

namespace Custody

def fresh (kind : ClientKind) : Custody := ⟨kind, none, .leaves, 0, [], []⟩

/-- Accepted batches are left open. -/
def leavesOpen (custody : Custody) : Bool :=
  custody.kind = .scripted && custody.automatic.isNone

def accept (custody : Custody) : Custody :=
  { custody with
    accepted := custody.accepted + 1
    held := if custody.leavesOpen then custody.held ++ [custody.accepted] else custody.held }

def use (custody : Custody) (outcomes : List (Nat × Outcome)) : Custody :=
  { custody with held := Timeline.leftOver custody.held outcomes }

def delay (custody : Custody) (batch deadlineMs : Nat) : Custody :=
  if batch ∈ custody.held then
    { custody with
      held := custody.held.erase batch
      delayed := custody.delayed ++ [(batch, deadlineMs)] }
  else custody

/-- The resolvers whose time has come are used. -/
def elapse (custody : Custody) (nowMs : Nat) : Custody :=
  { custody with delayed := custody.delayed.filter fun given => nowMs < given.2 }

/-- What a step does to the resolvers, apart from the time that it takes. -/
def note (custody : Custody) (report : SessionReport) : SessionStep ε → Custody
  | .invoke _ => if report.calls.any Call.isAccepted then custody.accept else custody
  | .close =>
    if report.calls.any Call.isClose then custody.use (custody.closing.outcomes custody.held)
    else custody
  | .resolve outcomes => custody.use outcomes
  | .resolveAfter batch delayMs _ => custody.delay batch (report.nowMs + Sleep.lengthMs delayMs)
  | .setAutomatic outcome => { custody with automatic := outcome }
  | .setClosing closing => { custody with closing }
  | _ => custody

def watch (custody : Custody) (given : SessionStep ε) (report : SessionReport) : Custody :=
  (custody.note report given).elapse report.nowMs

/-- The custody after every step. -/
def watchAll (custody : Custody) : List (SessionStep ε) → List SessionReport → List Custody
  | given :: steps, report :: reports =>
    custody.watch given report :: (custody.watch given report).watchAll steps reports
  | _, _ => []

/-- The custody after all steps. -/
def watchThrough (custody : Custody) : List (SessionStep ε) → List SessionReport → Custody
  | given :: steps, report :: reports => (custody.watch given report).watchThrough steps reports
  | _, _ => custody

/-- The number of accepted batches whose resolvers were neither used nor dropped. -/
def unresolved (custody : Custody) : Nat :=
  custody.held.length + custody.delayed.length

end Custody

/-- Clients that treat batches alike. -/
structure Client.Alike (client later : Client) : Prop where
  kind : later.kind = client.kind
  automatic : later.automatic = client.automatic
  closing : later.closing = client.closing

theorem Client.Alike.refl (client : Client) : client.Alike client := ⟨rfl, rfl, rfl⟩

theorem Client.Alike.trans {first second third : Client} (earlier : first.Alike second)
    (later : second.Alike third) : first.Alike third :=
  ⟨later.kind.trans earlier.kind, later.automatic.trans earlier.automatic,
    later.closing.trans earlier.closing⟩

namespace Session

/-- A session in the middle of a step: its timeline is in order, and its worker exists. -/
structure Sound (session : Session ε) : Prop where
  orderly : session.timeline.Orderly []
  ahead : ∀ timer ∈ session.timeline.timers, session.timeline.nowMs < timer.deadlineMs
  interval : 0 < session.sink.settings.pollIntervalMs
  worker : ∀ handle, session.sink.worker = some handle →
    handle.worker < session.timeline.ledger.workers.length

/-- A session between two steps. -/
structure Steady (session : Session ε) : Prop extends Sound session where
  idle : session.timeline.ready = []

/-- What was seen of a session is how things are. -/
structure Seen (custody : Custody) (session : Session ε) : Prop where
  kind : session.client.kind = custody.kind
  automatic : session.client.automatic = custody.automatic
  closing : session.client.closing = custody.closing
  accepted : session.timeline.ledger.next = custody.accepted
  held : session.timeline.resolvers = custody.held
  delayed : session.timeline.delayed = custody.delayed

variable {session : Session ε} {custody : Custody}

theorem Steady.settled (steady : Steady session) : session.timeline.Settled :=
  ⟨steady.orderly, steady.idle, steady.ahead⟩

/-- The timeline moves on, and no worker is lost. -/
theorem Sound.moveOn (sound : Sound session) {timeline : Timeline} (settled : timeline.Settled)
    (staffed : session.timeline.ledger.Staffed timeline.ledger) : Sound { session with timeline } where
  orderly := settled.orderly
  ahead := settled.ahead
  interval := sound.interval
  worker handle found := Nat.lt_of_lt_of_le (sound.worker handle found) staffed.hired

/-- What stays the same when only the calls, the partitioner or the errors to come change. -/
structure Alike (session later : Session ε) : Prop where
  timeline : later.timeline = session.timeline
  settings : later.sink.settings = session.sink.settings
  worker : later.sink.worker = session.sink.worker
  client : session.client.Alike later.client

theorem Alike.refl (session : Session ε) : Alike session session := ⟨rfl, rfl, rfl, .refl _⟩

theorem Alike.trans {first second third : Session ε} (earlier : Alike first second)
    (later : Alike second third) : Alike first third :=
  ⟨later.timeline.trans earlier.timeline, later.settings.trans earlier.settings,
    later.worker.trans earlier.worker, earlier.client.trans later.client⟩

theorem Steady.alike {later : Session ε} (steady : Steady session) (alike : Alike session later) :
    Steady later := by
  refine ⟨⟨?_, ?_, ?_, ?_⟩, ?_⟩
  · rw [alike.timeline]
    exact steady.orderly
  · rw [alike.timeline]
    exact steady.ahead
  · rw [alike.settings]
    exact steady.interval
  · rw [alike.timeline, alike.worker]
    exact steady.worker
  · rw [alike.timeline]
    exact steady.idle

theorem Seen.alike {later : Session ε} (seen : Seen custody session) (alike : Alike session later) :
    Seen custody later := by
  refine ⟨alike.client.kind.trans seen.kind, alike.client.automatic.trans seen.automatic,
    alike.client.closing.trans seen.closing, ?_, ?_, ?_⟩
  · rw [alike.timeline]
    exact seen.accepted
  · rw [alike.timeline]
    exact seen.held
  · rw [alike.timeline]
    exact seen.delayed

theorem Seen.passed (seen : Seen custody session) {later : Session ε}
    (passed : session.timeline.Passed later.timeline) (client : session.client.Alike later.client) :
    Seen (custody.elapse later.timeline.nowMs) later where
  kind := client.kind.trans seen.kind
  automatic := client.automatic.trans seen.automatic
  closing := client.closing.trans seen.closing
  accepted := passed.next.trans seen.accepted
  held := passed.resolvers.trans seen.held
  delayed := by rw [passed.delayed, seen.delayed]; rfl

/-- A step that leaves a session as whoever watches expects it. -/
def Follows (custody : Custody) (given : SessionStep ε) (later : Session ε) : Prop :=
  Sound later ∧ ∀ report : SessionReport, report.nowMs = later.timeline.nowMs →
    report.calls = later.calls.reverse → Seen (custody.watch given report) later

/-- A step of which nothing is noted but the time that it takes. -/
theorem Seen.follows (seen : Seen custody session) {given : SessionStep ε}
    (note : ∀ report, custody.note report given = custody) {later : Session ε} (sound : Sound later)
    (passed : session.timeline.Passed later.timeline) (client : session.client.Alike later.client) :
    Follows custody given later := by
  refine ⟨sound, ?_⟩
  intro report now _
  rw [Custody.watch, note, now]
  exact seen.passed passed client

theorem Steady.follows_passed (steady : Steady session) (seen : Seen custody session)
    {given : SessionStep ε} (note : ∀ report, custody.note report given = custody)
    {timeline : Timeline} (settled : timeline.Settled) (passed : session.timeline.Passed timeline) :
    Follows custody given { session with timeline } :=
  seen.follows note (steady.moveOn settled passed.staffed) passed (.refl _)

/-- A step that leaves the timeline alone. -/
theorem Steady.follows_alike (steady : Steady session) (seen : Seen custody session)
    {given : SessionStep ε} (note : ∀ report, custody.note report given = custody)
    {later : Session ε} (alike : Alike session later) : Follows custody given later := by
  have steady := steady.alike alike
  exact (seen.alike alike).follows note steady.toSound (.refl steady.ahead) (.refl _)

end Session
end CheckpointSink
