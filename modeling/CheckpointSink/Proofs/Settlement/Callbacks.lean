import CheckpointSink.Proofs.Settlement.Clock

/-!
Which callbacks run while tasks run. An outcome that was delivered is on its way until its callback
has run, in the forwarding task or in a worker. What is counted and reported afterwards is what the
callbacks make of it, and no outcome is lost on the way.
-/

namespace CheckpointSink

/-- The report of a batch that failed. -/
def Event.isFailure (event : Event) : Bool :=
  event.message = "send logs failed"

/-- The reports of failed batches among some entries. -/
def failures (entries : List Entry) : List Event :=
  (entries.filterMap Entry.event?).filter Event.isFailure

theorem failures_append (first second : List Entry) :
    failures (first ++ second) = failures first ++ failures second := by
  simp only [failures, List.filterMap_append, List.filter_append]

theorem isFailure_of_report? {outcome : Outcome} {event : Event}
    (reported : outcome.report? = some event) : event.isFailure = true := by
  obtain ⟨code, message, attempts, rfl⟩ | ⟨error, rfl⟩ := Outcome.report?_cases reported
  · rfl
  · rfl

/-- The count of outstanding batches and the failed batches reported so far. -/
structure Account where
  pending : Int
  failures : List Event
  deriving DecidableEq

namespace Account

/-- The account after the callback of an outcome. -/
def settle (account : Account) (outcome : Outcome) : Account :=
  let settled := CheckpointSink.settle account.pending outcome
  ⟨settled.1, account.failures ++ CheckpointSink.failures settled.2⟩

/-- A callback that finds its batch counted takes it off the count and reports it if it failed. -/
theorem settle_eq {account : Account} (counted : 0 < account.pending) (outcome : Outcome) :
    account.settle outcome =
      ⟨account.pending - 1, account.failures ++ outcome.report?.toList⟩ := by
  simp only [settle, settle_counted counted]
  cases reported : outcome.report? with
  | none => rfl
  | some event => simp [CheckpointSink.failures, Entry.event?, isFailure_of_report? reported]

/-- Callbacks that find their batches counted report each of those that failed once. -/
theorem failures_foldl_settle {account : Account} {outcomes : List Outcome}
    (counted : outcomes.length ≤ account.pending) :
    (outcomes.foldl settle account).failures =
      account.failures ++ outcomes.filterMap Outcome.report? := by
  induction outcomes generalizing account with
  | nil => exact (List.append_nil _).symm
  | cons outcome rest ih =>
    rw [List.length_cons] at counted
    rw [List.foldl_cons, settle_eq (by omega), ih (by simp only; omega), List.append_assoc]
    cases reported : outcome.report? with
    | none => rw [List.filterMap_cons_none reported]; rfl
    | some event => rw [List.filterMap_cons_some reported]; rfl

end Account

namespace Settlement

namespace Ledger

def account (ledger : Ledger) : Account :=
  ⟨ledger.pending, failures ledger.entries.reverse⟩

theorem account_complete (ledger : Ledger) (outcome : Outcome) :
    (ledger.complete outcome).account = ledger.account.settle outcome := by
  simp only [account, complete, Account.settle, List.reverse_append, List.reverse_reverse,
    failures_append]

theorem account_completeAll (ledger : Ledger) (outcomes : List Outcome) :
    (ledger.completeAll outcomes).account = outcomes.foldl Account.settle ledger.account := by
  induction outcomes generalizing ledger with
  | nil => rfl
  | cons outcome rest ih =>
    rw [List.foldl_cons, ← account_complete]
    exact ih (ledger.complete outcome)

theorem account_enter (ledger : Ledger) {event : Event} (plain : event.isFailure = false) :
    (ledger.enter event).account = ledger.account := by
  have skipped : failures [Entry.event event ledger.pending] = [] := by
    simp [failures, Entry.event?, plain]
  simp only [account, enter, List.reverse_cons, failures_append, skipped, List.append_nil]

/-- The outcomes that were delivered and whose callbacks have not run. -/
def underway (ledger : Ledger) : List Outcome :=
  ledger.batches.filterMap Batch.delivered ++ ledger.queued.map Prod.snd

/-- Where no batch was lost, those that are counted have no outcome yet or are underway. -/
theorem length_outstanding {ledger : Ledger} (kept : ledger.discarded = []) :
    ledger.outstanding.length = ledger.undelivered.length + ledger.underway.length := by
  have halves : ledger.batches.length = (ledger.batches.filterMap Batch.delivered).length +
      (ledger.batches.filter fun batch => batch.delivered.isNone).length := by
    rw [List.length_filterMap_eq_countP, ← List.countP_eq_length_filter,
      List.length_eq_countP_add_countP fun batch => batch.delivered.isSome]
    refine congrArg _ (List.countP_congr fun batch _ => ?_)
    cases batch.delivered <;> simp
  simp only [outstanding, kept, undelivered, underway, ids, List.length_append, List.length_map,
    List.length_nil]
  omega

/-- From one ledger to another the callbacks of some outcomes have run, and no other outcome has come
or gone. -/
structure Ran (before : Ledger) (outcomes : List Outcome) (after : Ledger) : Prop where
  account : after.account = outcomes.foldl Account.settle before.account
  underway : before.underway.Perm (outcomes ++ after.underway)

theorem Ran.refl (ledger : Ledger) : Ran ledger [] ledger := ⟨rfl, .refl _⟩

theorem batches_perm_removeBatch {ledger : Ledger} (distinct : ledger.ids.Nodup) {batch : Batch}
    (member : batch ∈ ledger.batches) :
    ledger.batches.Perm (batch :: (ledger.removeBatch batch.id).batches) := by
  have erased : (ledger.removeBatch batch.id).batches = ledger.batches.erase batch := by
    rw [(List.Nodup.of_map Batch.id distinct).erase_eq_filter, removeBatch]
    apply List.filter_congr
    intro other known
    by_cases same : other.id = batch.id
    · simp [unique_batch distinct known member same]
    · have different : other ≠ batch := fun equal => same (congrArg Batch.id equal)
      simp [same, different]
  rw [erased]
  exact List.perm_cons_erase member

/-- A batch that leaves the batches takes its outcome with it. -/
theorem underway_removeBatch {ledger : Ledger} (distinct : ledger.ids.Nodup) {batch : Batch}
    (member : batch ∈ ledger.batches) {outcome : Outcome} (delivered : batch.delivered = some outcome) :
    ledger.underway.Perm (outcome :: (ledger.removeBatch batch.id).underway) := by
  have parted := (batches_perm_removeBatch distinct member).filterMap Batch.delivered
  rw [List.filterMap_cons_some delivered] at parted
  exact parted.append_right _

theorem underway_setDelivered {ledger : Ledger} (distinct : ledger.ids.Nodup) {batch : Batch}
    (member : batch ∈ ledger.batches) (undelivered : batch.delivered = none) (outcome : Outcome) :
    (ledger.setDelivered batch.id outcome).underway.Perm (outcome :: ledger.underway) := by
  have parted := batches_perm_removeBatch distinct member
  have others : (ledger.removeBatch batch.id).batches.map (fun other =>
      if other.id = batch.id then { other with delivered := some outcome } else other) =
        (ledger.removeBatch batch.id).batches := by
    conv_rhs => rw [← List.map_id (ledger.removeBatch batch.id).batches]
    apply List.map_congr_left
    intro other known
    have different : other.id ≠ batch.id := by simpa using (List.mem_filter.mp known).2
    rw [if_neg different]
    rfl
  have changed := (parted.map fun other =>
    if other.id = batch.id then { other with delivered := some outcome } else other).filterMap
      Batch.delivered
  have given : Batch.delivered { batch with delivered := some outcome } = some outcome := rfl
  rw [List.map_cons, others, if_pos rfl, List.filterMap_cons_some given] at changed
  have unchanged := parted.filterMap Batch.delivered
  rw [List.filterMap_cons_none undelivered] at unchanged
  exact (changed.trans (unchanged.symm.cons outcome)).append_right _

/-- What a worker gets into its queue is on its way, and what leaves the queue no longer is. -/
theorem underway_setWorker {ledger : Ledger} {worker : Nat} {old : Worker}
    (found : ledger.worker? worker = some old) (new : Worker) :
    (ledger.underway ++ new.queue.map Prod.snd).Perm
      (old.queue.map Prod.snd ++ (ledger.setWorker worker new).underway) := by
  have moved := (queued_setWorker_perm found new).map Prod.snd
  rw [List.perm_iff_count]
  intro other
  have same := moved.count_eq other
  simp only [underway, List.map_append, List.count_append] at same ⊢
  show List.count other (ledger.batches.filterMap Batch.delivered) + _ + _ = _
  simp only [setWorker] at same ⊢
  omega

theorem Forwarded.ran {ledger later : Ledger} {id : Nat} (forwarded : Forwarded ledger id later)
    (distinct : ledger.ids.Nodup) : ∃ outcomes, Ran ledger outcomes later := by
  cases forwarded with
  | idle => exact ⟨[], .refl ledger⟩
  | @queued batch outcome worker state member this stage delivered found =>
    subst this
    have left := underway_removeBatch distinct member delivered
    have known : (ledger.removeBatch batch.id).worker? worker = some state := found
    have sent := underway_setWorker known { state with queue := state.queue ++ [(batch.id, outcome)] }
    -- The outcome leaves the batches when it enters the queue.
    refine ⟨[], rfl, left.trans ?_⟩
    rw [List.perm_iff_count] at sent ⊢
    intro other
    have same := sent other
    simp only [List.map_append, List.count_append, List.count_cons, List.map_cons, List.map_nil,
      List.count_nil, List.nil_append] at same ⊢
    omega
  | @inline batch outcome member this delivered =>
    subst this
    exact ⟨[outcome], account_complete (ledger.removeBatch batch.id) outcome,
      underway_removeBatch distinct member delivered⟩

theorem underway_completeAll (ledger : Ledger) (outcomes : List Outcome) :
    (ledger.completeAll outcomes).underway = ledger.underway := by
  simp only [underway, queued, batches_completeAll, workers_completeAll]

/-- A worker that empties its queue runs the callbacks of what was in it. -/
theorem ran_emptied {ledger : Ledger} {worker : Nat} {state : Worker}
    (found : ledger.worker? worker = some state) (new : Worker) (empty : new.queue = []) :
    Ran ledger (state.queue.map Prod.snd)
      ((ledger.setWorker worker new).completeAll (state.queue.map Prod.snd)) := by
  have emptied := underway_setWorker found new
  rw [empty, List.map_nil, List.append_nil] at emptied
  refine ⟨account_completeAll _ _, ?_⟩
  rw [underway_completeAll]
  exact emptied

theorem Worked.ran {ledger later : Ledger} {worker : Nat} (worked : Worked ledger worker later) :
    ∃ outcomes, Ran ledger outcomes later := by
  cases worked with
  | idle => exact ⟨[], .refl ledger⟩
  | kept found => exact ⟨_, ran_emptied found _ rfl⟩
  | @drained state found =>
    have emptied := ran_emptied found { state with task := .ended, queue := [] } rfl
    exact ⟨_, (account_enter _ rfl).trans emptied.account, emptied.underway⟩
  | @aborted state found cancelled queue =>
    obtain ⟨senderHeld, task, inQueue⟩ := state
    subst queue
    exact ⟨[], ran_emptied found _ rfl⟩

end Ledger

namespace Task

/-- The outcome that a task delivers. -/
def outcome? : Task → Option Outcome
  | deliver _ outcome => some outcome
  | _ => none

theorem outcome?_of_plain {task : Task} (plain : task.delivery? = none) : task.outcome? = none := by
  cases task with
  | deliver => cases plain
  | _ => rfl

theorem isSome_outcome? (task : Task) : task.outcome?.isSome = task.delivery?.isSome := by
  cases task <;> rfl

end Task

namespace Timeline

/-- The outcomes on their way, with those that a task is about to deliver. -/
def underway (timeline : Timeline) : List Outcome :=
  timeline.ready.filterMap Task.outcome? ++ timeline.ledger.underway

def account (timeline : Timeline) : Account := timeline.ledger.account

/-- From one timeline to another the callbacks of some outcomes have run, and no other outcome has
come or gone. -/
structure Ran (before : Timeline) (outcomes : List Outcome) (after : Timeline) : Prop where
  account : after.account = outcomes.foldl Account.settle before.account
  underway : before.underway.Perm (outcomes ++ after.underway)
  /-- Only waits in the background set timers. -/
  timers : before.waits = [] → after.waits = [] ∧ after.timers = before.timers

theorem Ran.refl (timeline : Timeline) : Ran timeline [] timeline :=
  ⟨rfl, .refl _, fun none => ⟨none, rfl⟩⟩

theorem Ran.trans {first second third : Timeline} {earlier later : List Outcome}
    (before : Ran first earlier second) (after : Ran second later third) :
    Ran first (earlier ++ later) third where
  account := by rw [List.foldl_append, ← before.account, after.account]
  underway := by
    rw [List.append_assoc]
    exact before.underway.trans (after.underway.append_left earlier)
  timers none :=
    have reached := before.timers none
    have left := after.timers reached.1
    ⟨left.1, left.2.trans reached.2⟩

theorem Ran.still {before after : Timeline} (ran : Ran before [] after) (still : before.underway = []) :
    after.underway = [] := by
  have same := ran.underway
  rw [still] at same
  exact same.symm.eq_nil

section

variable {timeline : Timeline} {moving : List Nat}

theorem outcomes_wake (timeline : Timeline) (task : Task) (plain : task.delivery? = none) :
    (timeline.wake task).ready.filterMap Task.outcome? =
      timeline.ready.filterMap Task.outcome? := by
  by_cases known : task ∈ timeline.ready
  · rw [wake, if_pos known]
  · simp [wake, known, Task.outcome?_of_plain plain]

theorem outcomes_wakeAll (timeline : Timeline) {tasks : List Task}
    (plain : ∀ task ∈ tasks, task.delivery? = none) :
    (timeline.wakeAll tasks).ready.filterMap Task.outcome? =
      timeline.ready.filterMap Task.outcome? := by
  induction tasks generalizing timeline with
  | nil => rfl
  | cons task rest ih =>
    show ((timeline.wake task).wakeAll rest).ready.filterMap Task.outcome? = _
    rw [ih (timeline.wake task) fun other member => plain other (List.mem_cons_of_mem _ member),
      outcomes_wake timeline task (plain task List.mem_cons_self)]

/-- The tasks that are woken bring no outcomes of their own. -/
theorem ran_woken {task : Task} {rest tasks : List Task} {later : Ledger}
    (ready : timeline.ready = task :: rest) (plain : task.delivery? = none)
    (quiet : ∀ woken ∈ tasks, woken.delivery? = none) {outcomes : List Outcome}
    (ran : timeline.ledger.Ran outcomes later) :
    Ran timeline outcomes ({ timeline with ready := rest, ledger := later }.wakeAll tasks) := by
  have same := outcomes_wakeAll { timeline with ready := rest, ledger := later } quiet
  have popped : timeline.ready.filterMap Task.outcome? = rest.filterMap Task.outcome? := by
    rw [ready, List.filterMap_cons_none (Task.outcome?_of_plain plain)]
  rw [wakeAll_eq]
  refine ⟨ran.account, ?_, fun none => ⟨none, rfl⟩⟩
  show List.Perm _ (outcomes ++ (List.filterMap Task.outcome? _ ++ later.underway))
  rw [same, underway, popped]
  exact (ran.underway.append_left _).trans (by
    simp only [← List.append_assoc]
    exact List.perm_append_comm.append_right _)

/-- A resolver that is used sends its outcome on its way. -/
theorem Orderly.underway_deliver {batch : Nat} (orderly : Orderly (batch :: moving) timeline)
    (outcome : Outcome) : ((timeline.perform [.deliver batch outcome]).wake
      (.forward batch)).underway.Perm (outcome :: timeline.underway) := by
  obtain ⟨known, member, rfl, undelivered⟩ := Ledger.undelivered_subset orderly.undelivered
  have same := outcomes_wake (timeline.perform [.deliver known.id outcome])
    (.forward known.id) rfl
  have set := Ledger.underway_setDelivered orderly.booked.distinct member undelivered outcome
  rw [wake_eq]
  show List.Perm (List.filterMap Task.outcome? _ ++
    (timeline.ledger.attempts [.deliver known.id outcome]).underway) _
  rw [same, orderly.delivered]
  exact (set.append_left _).trans List.perm_middle

theorem Orderly.account_deliver {batch : Nat} (orderly : Orderly (batch :: moving) timeline)
    (outcome : Outcome) : ((timeline.perform [.deliver batch outcome]).wake
      (.forward batch)).account = timeline.account := by
  rw [wake_eq]
  show (timeline.ledger.attempts [.deliver batch outcome]).account = _
  rw [orderly.delivered]
  rfl

theorem isFailure_report (barrier : Barrier) (elapsedMs : Nat) (pending : Int) :
    (barrier.report elapsedMs pending).isFailure = false := by
  unfold Barrier.report
  split
  · rfl
  · split <;> rfl

theorem ran_enter (timeline : Timeline) (event : Event) (plain : event.isFailure = false) :
    Ran timeline [] (timeline.enter event) :=
  ⟨Ledger.account_enter timeline.ledger plain, .refl _, fun none => ⟨none, rfl⟩⟩

theorem ran_pollWait (timeline : Timeline) (index : Nat) :
    Ran timeline [] (timeline.pollWait index) := by
  unfold Timeline.pollWait
  split
  · exact .refl timeline
  · rename_i wait found
    have reported := timeline.ran_enter _ (isFailure_report wait.barrier
      (timeline.nowMs - wait.begunMs) timeline.pending)
    have some_waits : timeline.waits ≠ [] := fun none => by simp [none] at found
    dsimp only
    split <;> exact ⟨reported.account, reported.underway, fun none => absurd none some_waits⟩

/-- Every task runs callbacks, or leaves outcomes on their way. -/
theorem Orderly.ran_runTask (orderly : Orderly moving timeline) {task : Task} {rest : List Task}
    (ready : timeline.ready = task :: rest) :
    ∃ outcomes, Ran timeline outcomes ({ timeline with ready := rest }.runTask task) := by
  cases task with
  | forward batch =>
    obtain ⟨outcomes, ran⟩ := (Ledger.forwarded orderly.resting orderly.booked.distinct batch).ran
      orderly.booked.distinct
    exact ⟨outcomes, ran_woken ready rfl (fun _ => Task.wakes_plain) ran⟩
  | work worker =>
    obtain ⟨history, run⟩ := orderly.booked.run
    obtain ⟨outcomes, ran⟩ := (Ledger.worked orderly.resting run worker).ran
    exact ⟨outcomes, ran_woken ready rfl (fun _ => Task.wakes_plain) ran⟩
  | poll index =>
    have popped : Ran timeline [] { timeline with ready := rest } := by
      refine ⟨rfl, ?_, fun none => ⟨none, rfl⟩⟩
      rw [underway, ready, List.filterMap_cons_none rfl]
      exact .refl _
    exact ⟨[], popped.trans (ran_pollWait _ index)⟩
  | deliver batch outcome =>
    have popped : Orderly (batch :: moving) { timeline with ready := rest } :=
      orderly.pop ready (by simp) (by simp)
    have run : { timeline with ready := rest }.runTask (.deliver batch outcome) =
        ({ timeline with ready := rest }.perform [.deliver batch outcome]).wake
          (.forward batch) := by
      simp only [Timeline.runTask, Task.steps, perform, popped.wakes_deliver, wakeAll,
        List.foldl_cons, List.foldl_nil]
    have brings : (Task.deliver batch outcome).outcome? = some outcome := rfl
    rw [run]
    refine ⟨[], popped.account_deliver outcome, ?_, fun none => ?_⟩
    · rw [underway, ready, List.filterMap_cons_some brings]
      exact (popped.underway_deliver outcome).symm
    · rw [wake_eq]
      exact ⟨none, rfl⟩

theorem underway_eq_nil (plain : ∀ task ∈ timeline.ready, task.delivery? = none)
    (undelivered : ∀ batch ∈ timeline.ledger.batches, batch.delivered = none)
    (queues : ∀ worker, timeline.ledger.queue worker = []) : timeline.underway = [] := by
  have ready : timeline.ready.filterMap Task.outcome? = [] :=
    List.filterMap_eq_nil_iff.mpr fun task member => Task.outcome?_of_plain (plain task member)
  have batches : timeline.ledger.batches.filterMap Batch.delivered = [] :=
    List.filterMap_eq_nil_iff.mpr undelivered
  rw [underway, Ledger.underway, ready, batches, Ledger.queued_of_idle queues]
  rfl

theorem Orderly.underway_of_idle (orderly : Orderly moving timeline)
    (idle : timeline.ready = []) : timeline.underway = [] :=
  underway_eq_nil (by simp [idle]) (orderly.delivered_of_idle idle) (orderly.queue_of_idle idle)

theorem Orderly.ran_runTasks (orderly : Orderly moving timeline) {turns : Nat}
    (enough : Task.totalWeight timeline.ready ≤ turns) :
    ∃ outcomes, Ran timeline outcomes (timeline.runTasks turns) := by
  induction turns generalizing timeline with
  | zero => exact ⟨[], .refl timeline⟩
  | succ turns ih =>
    unfold Timeline.runTasks
    cases ready : timeline.ready with
    | nil => exact ⟨[], .refl timeline⟩
    | cons task rest =>
      have lighter := totalWeight_runTask { timeline with ready := rest } task
      change _ < Task.totalWeight rest + task.weight at lighter
      rw [ready] at enough
      simp only [Task.totalWeight] at enough
      obtain ⟨first, ran⟩ := orderly.ran_runTask ready
      obtain ⟨others, ranRest⟩ := ih (orderly.runTask ready) (by omega)
      exact ⟨first ++ others, ran.trans ranRest⟩

/-- When no task can run any more, the callbacks of all outcomes that were on their way have run. -/
theorem Orderly.ran_runReady (orderly : Orderly moving timeline) :
    ∃ outcomes : List Outcome, outcomes.Perm timeline.underway ∧
      Ran timeline outcomes timeline.runReady := by
  obtain ⟨outcomes, ran⟩ := orderly.ran_runTasks (Nat.le_refl _)
  obtain ⟨after, idle, -⟩ := orderly.runReady
  have all := ran.underway
  change timeline.underway.Perm (outcomes ++ timeline.runReady.underway) at all
  rw [after.underway_of_idle idle, List.append_nil] at all
  exact ⟨outcomes, all.symm, ran⟩

/-- A single outcome on its way leaves no choice of order. -/
theorem Orderly.ran_single (orderly : Orderly moving timeline) {outcome : Outcome}
    (single : timeline.underway = [outcome]) : Ran timeline [outcome] timeline.runReady := by
  obtain ⟨outcomes, same, ran⟩ := orderly.ran_runReady
  rw [single] at same
  exact List.perm_singleton.mp same ▸ ran

theorem Orderly.ran_still (orderly : Orderly moving timeline) (still : timeline.underway = []) :
    Ran timeline [] timeline.runReady := by
  obtain ⟨outcomes, same, ran⟩ := orderly.ran_runReady
  rw [still] at same
  exact same.eq_nil ▸ ran

end

end Timeline

end Settlement
end CheckpointSink
