import CheckpointSink.Proofs.Settlement.Tending

/-!
Tasks in their order once no channel is kept open by whoever started its worker. No task wakes
another then, so whoever waits for the end of a worker, and goes on after the tasks that can run when
the worker ends, finds that everything has been settled.
-/

namespace CheckpointSink.Settlement

namespace Ledger

/-- Whether whoever started a worker still keeps its channel open, in the order of the starts. -/
def senders (ledger : Ledger) : List Bool := ledger.workers.map Worker.senderHeld

theorem senders_setWorker (ledger : Ledger) (worker : Nat) (new : Worker) :
    (ledger.setWorker worker new).senders = ledger.senders.set worker new.senderHeld := by
  simp only [senders, setWorker, List.map_set]

theorem senders_setWorker_same {ledger : Ledger} {worker : Nat} {old new : Worker}
    (found : ledger.worker? worker = some old) (same : new.senderHeld = old.senderHeld) :
    (ledger.setWorker worker new).senders = ledger.senders := by
  have known : ledger.senders[worker]? = some new.senderHeld := by
    rw [senders, List.getElem?_map, show ledger.workers[worker]? = some old from found, same]
    rfl
  rw [senders_setWorker, set_same known]

/-- No task gives up a channel, or takes one up again. -/
theorem lasts_senders (senders : List Bool) : Lasts fun ledger => ledger.senders = senders where
  attempt := by
    rintro ledger step inner rfl
    unfold Ledger.attempt
    cases taken : ledger.step? step with
    | none => rfl
    | some later =>
      cases transition_of_step? taken with
      | send _ _ found => exact senders_setWorker_same found rfl
      | take found => exact senders_setWorker_same found rfl
      | finish found => exact senders_setWorker_same found rfl
      | abort found => exact senders_setWorker_same found rfl
      | start => cases inner
      | release => cases inner
      | cancel => cases inner
      | _ => rfl
  report _ _ _ same := same

theorem senders_start (ledger : Ledger) :
    (ledger.attempts [.start]).senders = ledger.senders ++ [true] := by
  show ledger.start.senders = _
  simp only [senders, start, List.map_append, List.map_singleton, Worker.fresh]

theorem senders_submit {ledger : Ledger} (fresh : ledger.next ∉ ledger.ids) {worker : Nat}
    {state : Worker} (found : ledger.worker? worker = some state) (delivered : Option Outcome) :
    (ledger.attempts [.count delivered, .attach ledger.next worker]).senders = ledger.senders := by
  rw [attempts_submit fresh found]
  rfl

theorem senders_release (ledger : Ledger) (worker : Nat) :
    (ledger.attempts [.release worker]).senders = ledger.senders.set worker false := by
  cases found : ledger.worker? worker with
  | none =>
    have refused : ledger.step? (.release worker) = none := by simp [step?, release, found]
    have past : ledger.senders.length ≤ worker := by
      rw [senders, List.length_map]
      exact List.getElem?_eq_none_iff.mp found
    rw [show ledger.attempts [.release worker] = ledger from attempt_of_refused refused,
      List.set_eq_of_length_le past]
  | some state =>
    have taken : ledger.step? (.release worker) =
        some (ledger.setWorker worker { state with senderHeld := false }) := by
      simp only [step?, release, found]
    rw [show ledger.attempts [.release worker] = _ from attempt_of_taken taken, senders_setWorker]

end Ledger

namespace Timeline

variable {timeline : Timeline} {moving : List Nat}

/-! Turns -/

theorem runTasks_add (timeline : Timeline) (first second : Nat) :
    timeline.runTasks (first + second) = (timeline.runTasks first).runTasks second := by
  induction first generalizing timeline with
  | zero => rw [Nat.zero_add]; rfl
  | succ first ih =>
    rw [Nat.succ_add]
    cases ready : timeline.ready with
    | nil =>
      simp only [runTasks, ready]
      cases second <;> simp only [runTasks, ready]
    | cons task rest =>
      simp only [runTasks, ready]
      exact ih _

theorem runTasks_idle (idle : timeline.ready = []) (turns : Nat) :
    timeline.runTasks turns = timeline := by
  cases turns <;> simp only [runTasks, idle]

/-- So many turns as leave nothing to run are as good as any. -/
theorem runTasks_enough {turns : Nat} (idle : (timeline.runTasks turns).ready = []) :
    timeline.runTasks turns = timeline.runReady := by
  have last := timeline.ready_runReady
  rw [runReady] at last ⊢
  generalize Task.totalWeight timeline.ready = enough at last ⊢
  obtain ⟨more, rfl⟩ | ⟨more, rfl⟩ := (Nat.le_total turns enough).imp Nat.exists_eq_add_of_le
    Nat.exists_eq_add_of_le
  · rw [runTasks_add, runTasks_idle idle]
  · rw [runTasks_add, runTasks_idle last]

theorem wakeAll_known {tasks : List Task} (known : ∀ task ∈ tasks, task ∈ timeline.ready) :
    timeline.wakeAll tasks = timeline := by
  induction tasks with
  | nil => rfl
  | cons task rest ih =>
    have first : timeline.wake task = timeline := if_pos (known task List.mem_cons_self)
    show (timeline.wake task).wakeAll rest = timeline
    rw [first]
    exact ih fun other member => known other (List.mem_cons_of_mem _ member)

/-- A timeline on which no channel is kept open by whoever started its worker. -/
structure Parted (timeline : Timeline) : Prop extends Poised timeline where
  unheld : true ∉ timeline.ledger.senders

namespace Parted

/-- What a forwarding task would wake can run already: where the channel is closed, the outcome does
not get into the queue. -/
theorem known_wakes (parted : Parted timeline) {batch : Nat} {rest : List Task}
    (ready : timeline.ready = .forward batch :: rest) {later : Ledger}
    (forwarded : timeline.ledger.Forwarded batch later) :
    ∀ task ∈ (Task.forward batch).wakes timeline.ledger later, task ∈ rest := by
  intro task woken
  simp only [Task.wakes] at woken
  split at woken
  · rename_i worker _
    split at woken
    · cases woken
    · rename_i filled
      have busy : timeline.ledger.queue worker ≠ [] := by
        cases forwarded with
        | idle => simpa using filled
        | queued _ _ _ _ found held =>
          have open_ : true ∈ timeline.ledger.senders :=
            held ▸ List.mem_map_of_mem (Ledger.mem_workers found)
          exact absurd open_ parted.unheld
        | inline =>
          change ¬(timeline.ledger.queue worker).isEmpty = true at filled
          simpa using filled
      have member : Task.work worker ∈ timeline.ready := parted.tended.works worker busy
      rw [List.mem_singleton.mp woken]
      rw [ready] at member
      exact List.mem_of_ne_of_mem (by simp) member
  · cases woken

theorem runTask (parted : Parted timeline) {task : Task} {rest : List Task}
    (ready : timeline.ready = task :: rest) :
    Parted ({ timeline with ready := rest }.runTask task) ∧
      ({ timeline with ready := rest }.runTask task).ready = rest := by
  have same : ({ timeline with ready := rest }.runTask task).ready = rest := by
    cases task with
    | deliver batch outcome =>
      have plain := parted.plain _ (ready ▸ List.mem_cons_self)
      cases plain
    | poll index => exact (polled _ index).ready
    | work worker => rfl
    | forward batch =>
      have forwarded := Ledger.forwarded parted.tended.resting parted.tended.booked.distinct batch
      have known := parted.known_wakes ready forwarded
      show (Timeline.wakeAll { timeline with
        ready := rest
        ledger := timeline.ledger.attempts ((Task.forward batch).steps timeline.ledger) }
          _).ready = rest
      rw [wakeAll_known known]
  have kept : ({ timeline with ready := rest }.runTask task).ledger.senders =
      timeline.ledger.senders := (Ledger.lasts_senders _).runTask rfl task
  exact ⟨⟨parted.toPoised.runTask ready, kept ▸ parted.unheld⟩, same⟩

theorem runTasks (parted : Parted timeline) (turns : Nat) :
    (timeline.runTasks turns).ready = timeline.ready.drop turns := by
  induction turns generalizing timeline with
  | zero => rfl
  | succ turns ih =>
    unfold Timeline.runTasks
    cases ready : timeline.ready with
    | nil => simp only [ready, List.drop_nil]
    | cons task rest =>
      obtain ⟨after, same⟩ := parted.runTask ready
      rw [ih after, same, List.drop_succ_cons]

/-- Whenever one looks, the tasks that can run are all that is left to be done: once as many have run,
nothing more can. -/
theorem resumes (parted : Parted timeline) (turns : Nat) :
    (timeline.runTasks turns).runTasks (timeline.runTasks turns).ready.length =
      timeline.runReady := by
  rw [← runTasks_add]
  apply runTasks_enough
  rw [parted.runTasks, parted.runTasks, List.length_drop, List.drop_eq_nil_iff]
  omega

end Parted

end Timeline
end CheckpointSink.Settlement
