import CheckpointSink.Proofs.Settlement.Whereabouts

/-!
No callback is lost and none runs twice, whatever the order of the steps.
-/

namespace CheckpointSink.Settlement

/-- The steps of forwarding tasks and workers. What is done to a worker from outside is not among
them. -/
def Step.ofTask : Step → Bool
  | receive _ => true
  | upgrade _ => true
  | send _ => true
  | settleInline _ => true
  | take _ => true
  | finish _ => true
  | _ => false

namespace Ledger

/-- No forwarding task and no worker can go on. -/
def Quiet (ledger : Ledger) : Prop :=
  ∀ step : Step, step.ofTask = true → ledger.step? step = none

/-- A forwarding task that was started and is not through can go on once the outcome is there. -/
theorem Quiet.undelivered {history : History} {ledger : Ledger} (quiet : ledger.Quiet)
    (run : Run history ledger) {batch : Batch} (member : batch ∈ ledger.batches)
    (attached : batch.id ∈ history.attached) : batch.delivered = none := by
  have found := batch?_of_mem run.accounted.distinct member
  have sound := run.placed.batches batch member
  cases stage : batch.stage with
  | counted => exact absurd attached (sound.attached.mp stage)
  | waiting worker =>
    cases delivered : batch.delivered with
    | none => rfl
    | some outcome =>
      have stuck := quiet (.receive batch.id) rfl
      simp [step?, receive, found, stage, delivered] at stuck
  | received outcome worker =>
    have stuck := quiet (.upgrade batch.id) rfl
    cases worker with
    | none => simp [step?, upgrade, found, stage] at stuck
    | some worker =>
      simp only [step?, upgrade, found, stage] at stuck
      split at stuck <;> cases stuck
  | sending outcome worker =>
    have bound := sound.target worker (by rw [stage]; rfl)
    have known : ledger.worker? worker = some ledger.workers[worker] :=
      List.getElem?_eq_getElem bound
    have stuck := quiet (.send batch.id) rfl
    simp only [step?, send, found, stage, known] at stuck
    split at stuck <;> cases stuck
  | inline outcome =>
    have stuck := quiet (.settleInline batch.id) rfl
    simp [step?, settleInline, found, stage] at stuck

/-- A worker with something in its queue can go on. -/
theorem Quiet.queued {history : History} {ledger : Ledger} (quiet : ledger.Quiet)
    (run : Run history ledger) : ledger.queued = [] := by
  rw [List.eq_nil_iff_forall_not_mem]
  intro given member
  obtain ⟨state, stateMember, inQueue⟩ := mem_queued.mp member
  obtain ⟨worker, bound, rfl⟩ := List.getElem_of_mem stateMember
  have known : ledger.worker? worker = some ledger.workers[worker] :=
    List.getElem?_eq_getElem bound
  have busy : ledger.workers[worker].queue ≠ [] := List.ne_nil_of_mem inQueue
  have alive : ledger.workers[worker].task ≠ .ended := fun ended =>
    busy (run.placed.ended _ stateMember ended)
  have stuck := quiet (.take worker) rfl
  simp only [step?, take, known] at stuck
  split at stuck
  · exact alive ‹_›
  · exact busy ‹_›
  · cases stuck

/-- What is still counted when no task can go on. -/
theorem Quiet.outstanding {history : History} {ledger : Ledger} (quiet : ledger.Quiet)
    (run : Run history ledger) : ledger.outstanding = ledger.ids ++ ledger.discarded := by
  simp only [Ledger.outstanding, quiet.queued run, List.map_nil, List.append_nil]

end Ledger

namespace Accounted

variable {history : History} {ledger : Ledger}

theorem settled_count_le (accounted : Accounted history ledger) (id : Nat) :
    history.settled.count id ≤ 1 :=
  List.nodup_iff_count_le_one.mp (List.nodup_append.mp accounted.nodup).2.1 id

/-- Every counted batch is either settled or outstanding, and no batch is both. -/
theorem mem_outstanding_iff (accounted : Accounted history ledger) {id : Nat} :
    id ∈ ledger.outstanding ↔ id < history.counted ∧ id ∉ history.settled := by
  have places := accounted.places.mem_iff (a := id)
  rw [List.mem_append, List.mem_range, accounted.next] at places
  constructor
  · intro member
    refine ⟨places.mp (.inl member), fun settled => ?_⟩
    exact (List.nodup_append.mp accounted.nodup).2.2 id member id settled rfl
  · rintro ⟨counted, unsettled⟩
    exact (places.mpr counted).resolve_right unsettled

theorem outstanding_perm_unsettled (accounted : Accounted history ledger) :
    ledger.outstanding.Perm history.unsettled := by
  have distinct : history.unsettled.Nodup := List.nodup_range.filter _
  rw [List.perm_ext_iff_of_nodup (List.nodup_append.mp accounted.nodup).1 distinct]
  intro id
  simp [accounted.mem_outstanding_iff, History.unsettled]

/-- The count is that of the batches whose callback has not run. -/
theorem pending_eq_unsettled (accounted : Accounted history ledger) :
    ledger.pending = history.unsettled.length := by
  rw [accounted.pending_eq, accounted.outstanding_perm_unsettled.length_eq]

end Accounted

/-- In every order of steps, each callback runs at most once and the count is that of the batches
whose callback has not run. Once no task can go on, an attached batch whose resolver was used or
dropped is still counted if and only if its outcome was in the queue of an aborted worker. -/
theorem settles_exactly_once {steps : List Step} {ledger : Ledger}
    (reachable : Reachable steps ledger) :
    let history := (History.after steps).1
    (∀ id, history.settled.count id ≤ 1) ∧
      (∀ given ∈ history.completed, given ∈ history.delivered) ∧
      ledger.pending = history.unsettled.length ∧
      (ledger.Quiet → ∀ id ∈ history.attached, (∃ outcome, (id, outcome) ∈ history.delivered) →
        (id ∈ history.unsettled ↔ id ∈ ledger.discarded)) := by
  have run := reachable.run
  have accounted := run.accounted
  refine ⟨accounted.settled_count_le, run.placed.completed, accounted.pending_eq_unsettled, ?_⟩
  rintro quiet id attached ⟨outcome, delivered⟩
  rw [← accounted.outstanding_perm_unsettled.mem_iff, quiet.outstanding run, List.mem_append]
  apply or_iff_right
  intro member
  obtain ⟨batch, batchMember, rfl⟩ := List.mem_map.mp member
  have waits := quiet.undelivered run batchMember attached
  rw [← (run.placed.batches batch batchMember).delivered outcome, waits] at delivered
  cases delivered

/-- A batch whose outcome a worker has in its queue when it is aborted. -/
def abortedSteps : List Step :=
  [.start, .count none, .attach 0 0, .deliver 0 (.failed .dropped), .receive 0, .upgrade 0, .send 0,
    .cancel 0, .abort 0]

def abortedLedger : Ledger :=
  ⟨1, 1, [], [⟨true, .ended, []⟩], [0], []⟩

theorem abortedLedger_quiet : abortedLedger.Quiet := by
  intro step task
  have absent : ∀ id, abortedLedger.batch? id = none := fun _ => rfl
  cases step with
  | receive id => simp [Ledger.step?, Ledger.receive, absent]
  | upgrade id => simp [Ledger.step?, Ledger.upgrade, absent]
  | send id => simp [Ledger.step?, Ledger.send, absent]
  | settleInline id => simp [Ledger.step?, Ledger.settleInline, absent]
  | take worker => cases worker <;> rfl
  | finish worker => cases worker <;> rfl
  | _ => cases task

theorem settles_exactly_once_aborted :
    Reachable abortedSteps abortedLedger ∧ 0 ∈ (History.after abortedSteps).1.unsettled := by
  have reachable : Reachable abortedSteps abortedLedger := reachable_iff.mpr rfl
  have attached : 0 ∈ (History.after abortedSteps).1.attached := by decide
  have delivered : (0, Outcome.failed .dropped) ∈ (History.after abortedSteps).1.delivered := by decide
  have lost := (settles_exactly_once reachable).2.2.2 abortedLedger_quiet 0 attached ⟨_, delivered⟩
  exact ⟨reachable, lost.mpr (by decide)⟩

end CheckpointSink.Settlement
