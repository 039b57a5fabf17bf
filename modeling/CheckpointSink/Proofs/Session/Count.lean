import CheckpointSink.Proofs.Session.Conduct

/-!
The count of a sink at every step of every script.
-/

namespace CheckpointSink

open CheckpointSink.Settlement

namespace Session

variable {ε : Type} {session : Session ε} {custody : Custody}

theorem Steady.clear (steady : Steady session) : Steady session.clear :=
  have settled := steady.settled.clear
  ⟨⟨settled.orderly, settled.ahead, steady.interval, steady.worker⟩, settled.idle⟩

theorem Seen.clear (seen : Seen custody session) : Seen custody session.clear :=
  ⟨seen.kind, seen.automatic, seen.closing, seen.accepted, seen.held, seen.delayed⟩

/-- Between two steps the count is the number of batches that whoever watches takes for unresolved. -/
theorem Steady.pending (steady : Steady session) (seen : Seen custody session) :
    session.pending = custody.unresolved := by
  have counted := steady.settled.pending
  rw [seen.held, seen.delayed] at counted
  rw [Session.pending, counted, Custody.unresolved]
  exact (Int.natCast_add _ _).symm

theorem Steady.step (steady : Steady session) (seen : Seen custody session)
    (given : SessionStep ε) : Steady (session.step given).2 ∧
      Seen (custody.watch given (session.step given).1) (session.step given).2 := by
  obtain ⟨sound, follows⟩ := steady.clear.follows_perform seen.clear rfl given
  obtain ⟨settled, kept⟩ := sound.orderly.settle sound.ahead
  have known := follows (session.step given).1 kept.nowMs rfl
  exact ⟨⟨sound.moveOn settled kept.staffed, settled.idle⟩, known.kind, known.automatic,
    known.closing, kept.next.trans known.accepted, kept.resolvers.trans known.held,
    kept.delayed.trans known.delayed⟩

theorem steady_new (clock : UInt32) (client : Client) {settings : Settings}
    (schema : UInt32 → ε → Option LogGroup) (positive : 0 < settings.pollIntervalMs) :
    Steady (Session.new clock client (Sink.new settings schema)) where
  orderly := Timeline.settled_empty.orderly
  ahead := Timeline.settled_empty.ahead
  interval := positive
  worker _ found := by cases found
  idle := rfl

theorem seen_new (clock : UInt32) (kind : ClientKind) (fromFactory : Bool) (sink : Sink ε) :
    Seen (.fresh kind) (Session.new clock (.fresh kind fromFactory) sink) :=
  ⟨rfl, rfl, rfl, rfl, rfl, rfl⟩

theorem Steady.run (steady : Steady session) (seen : Seen custody session)
    (script : List (SessionStep ε)) :
    (session.run script).map SessionReport.pending =
      (custody.watchAll script (session.run script)).map (fun known => (known.unresolved : Int)) ∧
    ∀ report ∈ session.run script, Entry.underflow ∉ report.entries := by
  induction script generalizing session custody with
  | nil => exact ⟨rfl, fun _ member => absurd member List.not_mem_nil⟩
  | cons given rest ih =>
    obtain ⟨after, known⟩ := steady.step seen given
    obtain ⟨others, clean⟩ := ih after known
    refine ⟨congrArg₂ List.cons (after.pending known) others, ?_⟩
    intro report member
    rcases List.mem_cons.mp member with rfl | later
    · intro underflow
      exact after.orderly.booked.clean (List.mem_reverse.mp underflow)
    · exact clean report later

theorem length_run (session : Session ε) (script : List (SessionStep ε)) :
    (session.run script).length = script.length := by
  induction script generalizing session with
  | nil => rfl
  | cons given rest ih => exact congrArg (· + 1) (ih _)

/-- After every step of every script the count is the number of batches, over all sessions of the
sink, that the client accepted and whose resolvers were neither used nor dropped. No callback finds
the count empty. -/
theorem counts_unresolved (clock : UInt32) (kind : ClientKind) (fromFactory : Bool)
    (settings : Settings) (schema : UInt32 → ε → Option LogGroup)
    (positive : 0 < settings.pollIntervalMs) (script : List (SessionStep ε)) :
    let reports := (Session.new clock (.fresh kind fromFactory) (Sink.new settings schema)).run script
    reports.length = script.length ∧
      reports.map SessionReport.pending =
        ((Custody.fresh kind).watchAll script reports).map (fun known => (known.unresolved : Int)) ∧
      ∀ report ∈ reports, 0 ≤ report.pending ∧ Entry.underflow ∉ report.entries := by
  have steady := steady_new clock (.fresh kind fromFactory) schema positive
  obtain ⟨counts, clean⟩ := steady.run (seen_new clock kind fromFactory _) script
  refine ⟨length_run _ script, counts, fun report member => ⟨?_, clean report member⟩⟩
  have counted := List.mem_map_of_mem (f := SessionReport.pending) member
  rw [counts] at counted
  obtain ⟨known, -, same⟩ := List.mem_map.mp counted
  rw [← same]
  exact Int.natCast_nonneg _

/-- A timeout of two and a half polls, and no grace. -/
def plainSettings : Settings :=
  ⟨⟨"project", "endpoint", "id", "key"⟩, "store", .standard 1, 250, 100, 0⟩

def plainGroup : LogGroup := ⟨[.stamped 0], "topic", "source"⟩

/-- Two batches of a closed session are open when the sink is opened again. -/
def reopenedScript : List (SessionStep LogGroup) :=
  [.openAt ⟨0, 1⟩, .invoke plainGroup, .invoke plainGroup,
    .resolveAfter 1 150 (.failed .dropped), .close, .openAt ⟨0, 1⟩, .invoke plainGroup, .snapshot,
    .resolve [(0, .failed .dropped)]]

theorem counts_unresolved_reopened :
    ((Custody.fresh .scripted).watchAll reopenedScript
      ((Session.new 0 (.fresh .scripted false) (Sink.new plainSettings fun _ => some)).run
        reopenedScript)).map (fun known => (known.unresolved : Int)) =
      [0, 1, 2, 2, 2, 2, 3, 2, 1] := by
  have positive : 0 < plainSettings.pollIntervalMs := by decide
  have counted : ((Session.new 0 (.fresh .scripted false)
      (Sink.new plainSettings fun _ => some)).run reopenedScript).map SessionReport.pending =
        [0, 1, 2, 2, 2, 2, 3, 2, 1] := by decide +kernel
  exact (counts_unresolved 0 .scripted false plainSettings (fun _ => some) positive
    reopenedScript).2.1.symm.trans counted

end Session
end CheckpointSink
