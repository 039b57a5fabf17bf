import CheckpointSink.Proofs.Session.Reached

/-!
The close of a sink, which settles whatever its client does before it returns. The worker ends as soon
as all that can run has run, so neither the batches that are still open nor the grace period are waited
for.
-/

namespace CheckpointSink

open CheckpointSink.Settlement

namespace Session

variable {ε : Type} {session : Session ε}

/-- What is left of a session after its close, given what its client did meanwhile, which delayed
outcomes became due and which callbacks ran. -/
structure Concluded (session : Session ε) (doings : List Act) (due ran : List Outcome)
    (final : Session ε) : Prop where
  closed : final.isOpen = false
  /-- The batches whose resolvers were neither used nor dropped. -/
  unresolved : final.timeline.ledger.undelivered.Perm
    (Timeline.leftOver session.timeline.resolvers (doings.filterMap Act.given?) ++
      final.timeline.delayed.map Prod.fst)
  counted : final.pending = final.timeline.ledger.undelivered.length
  told : final.timeline.ledger.entries.head? =
    some (.event (.sinkClosed final.pending) final.pending)
  nowMs : final.timeline.nowMs = session.timeline.nowMs + Act.totalMs doings
  promised : session.timeline.promised.Perm (due ++ final.timeline.promised)
  /-- No outcome is left that reached its batch meanwhile or was on its way before. -/
  settled : ran.Perm (arrivals session.timeline.resolvers (doings.filterMap Act.given?) ++
    (due ++ session.timeline.underway))
  reported : failures final.timeline.ledger.entries.reverse =
    failures session.timeline.ledger.entries.reverse ++ ran.filterMap Outcome.report?
  prompt : (∀ doing ∈ doings, doing.isPrompt = true) →
    due = [] ∧ final.timeline.delayed = session.timeline.delayed

theorem turned_giveBack (session : Session ε) (closed : Option ClientError × Client)
    (doings : List Act) : Timeline.Turned (session.timeline.acts doings) []
      (session.giveBack closed doings).timeline := by
  unfold giveBack
  dsimp only
  split
  · exact ⟨rfl, rfl, rfl, rfl, Ledger.account_enter _ rfl, .refl _⟩
  · exact .refl _

theorem worker_giveBack (session : Session ε) (closed : Option ClientError × Client)
    (doings : List Act) : (session.giveBack closed doings).sink.worker = session.sink.worker := by
  unfold giveBack
  dsimp only
  split <;> rfl

theorem Attended.concluded (attended : Attended session) {handle : WorkerHandle}
    (found : session.sink.worker = some handle) (closed : Option ClientError × Client)
    (doings : List Act) :
    ∃ due ran, Concluded session doings due ran (session.closeBy closed doings) := by
  obtain ⟨due, ran, dealt⟩ := attended.poised.acts doings
  have returned := attended.giveBack closed doings
  have held : (session.giveBack closed doings).sink.worker = some handle :=
    (worker_giveBack session closed doings).trans found
  obtain ⟨after, more, -, turned⟩ := (returned.parted held).tended.runReady
  have since := ((turned_giveBack session closed doings).trans
    (Timeline.turned_release handle _)).trans turned
  have idle := (handle.release (session.giveBack closed doings).timeline).ready_runReady
  rw [← returned.timeline_dismiss held] at after since idle
  -- Callbacks run while the client does something, and then until its worker has ended.
  have balanced := dealt.balanced.trans since.balanced
  rw [List.append_nil, List.append_nil] at balanced
  have all := balanced.underway
  rw [after.underway_of_idle idle, List.append_nil] at all
  have counted := Timeline.Orderly.pending_of_idle after idle
  have custody := Timeline.Orderly.custody_of_idle after idle
  have resolvers := since.resolvers.trans dealt.resolvers
  refine ⟨due, _, ?_, resolvers ▸ custody, counted, rfl, since.nowMs.trans dealt.nowMs, ?_,
    all.symm, ?_, fun prompt => ?_⟩
  · rw [isOpen, sink_closeBy]
    rfl
  · exact balanced.promised
  · have account : (session.closeBy closed doings).timeline.account =
        (session.giveBack closed doings).dismiss.timeline.account := Ledger.account_enter _ rfl
    have enough := balanced.length_ran_le attended.poised.tended
    rw [balanced.account] at account
    exact (congrArg Account.failures account).trans (Account.failures_foldl_settle enough)
  · obtain ⟨none_due, delayed⟩ := dealt.prompt prompt
    exact ⟨none_due, since.delayed.trans delayed⟩

/-- When the close of a sink returns, everything has been settled that its client resolved or dropped
meanwhile, whichever resolvers these were and in whichever order, and whether or not the client fails.
Both the count and the count in the last report are the number of batches that are still unresolved,
each failure has been reported once, and no time has passed but what the client took.

The worker has ended by then. The tasks that can run when it ends, or at any other moment of its stop,
are all that is left to be done, so it makes no difference that the close goes on after them and not at
once. -/
theorem close_settles (clock : UInt32) (client : Client) (settings : Settings)
    (schema : UInt32 → ε → Option LogGroup) (grace : 0 < settings.shutdownGraceMs)
    {session : Session ε}
    (reached : Reached (Session.new clock client (Sink.new settings schema)) session)
    (opened : session.isOpen = true) :
    (∃ number, session.sink.held = some number ∧
      session.close = session.closeBy (session.client.close number)
        ((session.client.closing.outcomes session.timeline.resolvers).map fun given =>
          .uses given.1 given.2)) ∧
    ∀ closed doings,
      let final := session.closeBy closed doings
      (∃ due ran, Concluded session doings due ran final) ∧
        ∃ worker, session.sink.worker = some worker ∧
          final.timeline.ledger.hasEnded worker.worker = true ∧
          ∀ turns,
            let stopping := (worker.release (session.giveBack closed doings).timeline).runTasks turns
            final.timeline = (stopping.runTasks stopping.ready.length).enter
              (.sinkClosed final.pending) := by
  obtain ⟨attended, paired⟩ := reached.attended (attended_new clock client schema grace) rfl
  obtain ⟨number, worker, known, found⟩ := paired.opened opened
  refine ⟨⟨number, known, close_eq known⟩, ?_⟩
  intro closed doings final
  have returned := attended.giveBack closed doings
  have held := (worker_giveBack session closed doings).trans found
  refine ⟨attended.concluded found closed doings, worker, found, returned.ended_dismiss held, ?_⟩
  intro turns stopping
  have resumed : stopping.runTasks stopping.ready.length =
      (session.giveBack closed doings).dismiss.timeline := by
    rw [returned.timeline_dismiss held]
    exact (returned.parted held).resumes turns
  rw [resumed]
  rfl

/-- Two batches of a closed session are open, and one of this session. -/
def racedScript : List (SessionStep LogGroup) :=
  [.openAt ⟨0, 1⟩, .invoke plainGroup, .invoke plainGroup, .close, .openAt ⟨0, 1⟩,
    .invoke plainGroup]

def racedBegun : Session LogGroup :=
  .new 0 (.fresh .scripted false)
    (Sink.new { plainSettings with shutdownGraceMs := 1000 } fun _ => some)

/-- The resolver of the first batch has just been used. -/
def racedSession : Session LogGroup :=
  let session := racedBegun.after racedScript
  { session with timeline := session.timeline.acts [.uses 0 (.failed .dropped)] }

/-- The resolver of the last batch is used as well, and then the client sleeps. -/
def racedDoings : List Act := [.uses 2 (.failed .closed), .sleeps 20, .uses 2 (.failed .dropped)]

/-- The second batch is still open after the close, which took as long as the client slept. -/
theorem close_settles_raced :
    let final := racedSession.closeBy (some .closed, racedSession.client) racedDoings
    (∃ due ran, Concluded racedSession racedDoings due ran final) ∧
      final.timeline.ledger.entries.head? = some (.event (.sinkClosed 1) 1) ∧
      final.timeline.nowMs = 20 ∧
      failures final.timeline.ledger.entries.reverse =
        [.batchFailed .dropped, .batchFailed .closed] := by
  intro final
  have grace : 0 < racedBegun.sink.settings.shutdownGraceMs := by decide
  have reached : Reached racedBegun racedSession := (Reached.start.after rfl racedScript).acts _
  have opened : racedSession.isOpen = true := by decide +kernel
  obtain ⟨due, ran, concluded⟩ := ((close_settles 0 (.fresh .scripted false) _ (fun _ => some)
    grace reached opened).2 (some .closed, racedSession.client) racedDoings).1
  have left : final.timeline.ledger.undelivered = [1] := by decide +kernel
  have counted : final.pending = 1 := concluded.counted.trans (by rw [left]; rfl)
  have begunMs : racedSession.timeline.nowMs = 0 := by decide +kernel
  refine ⟨⟨due, ran, concluded⟩, ?_, ?_, by decide +kernel⟩
  · rw [concluded.told, counted]
  · rw [concluded.nowMs, begunMs]
    rfl

end Session
end CheckpointSink
