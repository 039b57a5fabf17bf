import CheckpointSink.Proofs.Settlement.Lasting
import CheckpointSink.Proofs.Settlement.Paths

/-!
The workers of a timeline between two operations: one at most is at work, and the others have ended.
What is done to a worker then comes down to one equation for each operation, because a worker runs
with an empty queue.
-/

namespace CheckpointSink

/-- What is reported of the stop of a worker. -/
def Event.ofStop : Event → Bool
  | workerDrained => true
  | workerLate .. => true
  | workerStuck => true
  | _ => false

def Entry.ofStop (entry : Entry) : Bool :=
  entry.event?.any Event.ofStop

theorem ofStop_report {outcome : Outcome} {event : Event} (reported : outcome.report? = some event) :
    event.ofStop = false := by
  obtain ⟨code, message, attempts, rfl⟩ | ⟨error, rfl⟩ := Outcome.report?_cases reported
  · rfl
  · rfl

/-- A callback says nothing of workers. -/
theorem ofStop_settle (pending : Int) (outcome : Outcome) :
    ∀ entry ∈ (settle pending outcome).2, entry.ofStop = false := by
  intro entry member
  by_cases counted : 0 < pending
  · rw [settle_counted counted] at member
    obtain ⟨event, reported, rfl⟩ := Option.map_eq_some_iff.mp (Option.mem_toList.mp member)
    exact ofStop_report reported
  · rw [settle_spent (Int.not_lt.mp counted)] at member
    rw [List.mem_singleton.mp member]
    rfl

namespace Settlement

/-- A worker that has ended and that nobody can give anything to. -/
def Worker.gone : Worker := ⟨false, .ended, []⟩

namespace Ledger

theorem worker?_setWorker_ne (ledger : Ledger) {worker other : Nat} (different : other ≠ worker)
    (new : Worker) : (ledger.setWorker worker new).worker? other = ledger.worker? other := by
  simp only [worker?, setWorker, List.getElem?_set_ne (Ne.symm different)]

/-- Only the worker at work takes batches, and the others have ended. -/
def AtWork (current : Option Nat) (ledger : Ledger) : Prop :=
  ∀ worker state, ledger.worker? worker = some state →
    if current = some worker then state.senderHeld = true ∧ state.task = .running
    else state.senderHeld = false ∧ state.task = .ended

theorem AtWork.setWorker {current : Option Nat} {ledger : Ledger} (atWork : ledger.AtWork current)
    {worker : Nat} {old : Worker} (found : ledger.worker? worker = some old) {new : Worker}
    (sender : new.senderHeld = old.senderHeld) (task : new.task = old.task) :
    (ledger.setWorker worker new).AtWork current := by
  intro other state known
  by_cases this : other = worker
  · subst this
    rw [worker?_setWorker found] at known
    cases known
    rw [sender, task]
    exact atWork other old found
  · rw [worker?_setWorker_ne ledger this] at known
    exact atWork other state known

/-- The worker at work gives way. -/
theorem AtWork.dismiss {current : Option Nat} {ledger : Ledger} (atWork : ledger.AtWork current)
    {worker : Nat} (alone : ∀ other, current = some other → other = worker) :
    (ledger.setWorker worker .gone).AtWork none := by
  intro other state known
  rw [if_neg (Option.some_ne_none other).symm]
  by_cases this : other = worker
  · subst this
    have bound : other < ledger.workers.length := by
      simpa [worker?, Ledger.setWorker] using (List.getElem?_eq_some_iff.mp known).1
    rw [worker?_setWorker (List.getElem?_eq_getElem bound)] at known
    cases known
    exact ⟨rfl, rfl⟩
  · rw [worker?_setWorker_ne ledger this] at known
    have before := atWork other state known
    rwa [if_neg fun same => this (alone other same)] at before

/-- Another worker comes where none is at work. -/
theorem AtWork.hire {ledger : Ledger} (atWork : ledger.AtWork none) :
    ledger.start.AtWork (some ledger.workers.length) := by
  intro other state known
  by_cases old : other < ledger.workers.length
  · rw [worker?, start, List.getElem?_append_left old] at known
    have before := atWork other state known
    rw [if_neg (Option.some_ne_none other).symm] at before
    rwa [if_neg fun same => old.ne (Option.some.inj same).symm]
  · have bound := (List.getElem?_eq_some_iff.mp known).1
    simp only [start, List.length_append, List.length_singleton] at bound
    have last : other = ledger.workers.length := by omega
    subst last
    simp only [worker?, start, List.getElem?_concat_length, Option.some.injEq] at known
    rw [if_pos rfl, ← known]
    exact ⟨rfl, rfl⟩

theorem start_setWorker {ledger : Ledger} {worker : Nat} (hired : worker < ledger.workers.length)
    (state : Worker) :
    ledger.start.setWorker worker state = (ledger.setWorker worker state).start := by
  simp [start, Ledger.setWorker, List.set_append_left _ _ hired]

/-- A worker at work does not end by itself, and one that has ended does nothing. -/
theorem AtWork.attempt {current : Option Nat} {ledger : Ledger} (atWork : ledger.AtWork current)
    {step : Step} (inner : step.isInner = true) : (ledger.attempt step).AtWork current := by
  unfold Ledger.attempt
  cases taken : ledger.step? step with
  | none => exact atWork
  | some later =>
    cases transition_of_step? taken with
    | send _ _ found => exact atWork.setWorker found rfl rfl
    | take found => exact atWork.setWorker found rfl rfl
    | @finish worker state found queue runs closed =>
      have known := atWork worker state found
      split at known
      · simp [isOpen, found, known.1] at closed
      · exact absurd known.2 runs
    | @abort worker state found cancelled =>
      have known := atWork worker state found
      split at known <;> simp [cancelled] at known
    | count => cases inner
    | attach => cases inner
    | start => cases inner
    | release => cases inner
    | cancel => cases inner
    | _ => exact atWork

theorem lasts_atWork (current : Option Nat) : Lasts (AtWork current) where
  attempt inner atWork := atWork.attempt inner
  report _ _ _ atWork := atWork

/-- All workers have ended, and none of them is spoken of. -/
structure Silent (ledger : Ledger) : Prop where
  atWork : ledger.AtWork none
  entries : ∀ entry ∈ ledger.entries, entry.ofStop = false

theorem lasts_silent : Lasts Silent where
  attempt := by
    rintro ledger step inner ⟨atWork, entries⟩
    refine ⟨atWork.attempt inner, ?_⟩
    unfold Ledger.attempt
    have completed (other : Ledger) (outcome : Outcome) (same : other.entries = ledger.entries) :
        ∀ entry ∈ (other.complete outcome).entries, entry.ofStop = false := by
      intro entry member
      rcases List.mem_append.mp member with new | old
      · exact ofStop_settle _ _ entry (List.mem_reverse.mp new)
      · exact entries entry (same ▸ old)
    cases taken : ledger.step? step with
    | none => exact entries
    | some later =>
      cases transition_of_step? taken with
      | settleInline => exact completed _ _ rfl
      | take => exact completed _ _ rfl
      | @finish worker state found queue runs => exact absurd (atWork worker state found).2 runs
      | _ => exact entries
  report := by
    rintro ledger barrier elapsedMs pending ⟨atWork, entries⟩
    refine ⟨atWork, ?_⟩
    intro entry member
    rcases List.mem_cons.mp member with rfl | old
    · simp only [Entry.ofStop, Entry.event?, Option.any_some, Barrier.report]
      split
      · rfl
      · split <;> rfl
    · exact entries entry old

/-! A worker with an empty queue -/

variable {ledger : Ledger} {worker : Nat}

theorem attempts_work_fresh (found : ledger.worker? worker = some .fresh) :
    ledger.attempts ((Task.work worker).steps ledger) = ledger := by
  simp [Task.steps, queue, found, Worker.fresh, attempts, attempt, step?, finish, isOpen]

theorem attempts_work_gone (found : ledger.worker? worker = some .gone) :
    ledger.attempts ((Task.work worker).steps ledger) = ledger := by
  simp [Task.steps, queue, found, Worker.gone, attempts, attempt, step?, finish]

/-- Batches that wait for their outcomes do not keep the channel of a worker open. -/
theorem attempts_work_released (resting : ledger.Resting)
    (found : ledger.worker? worker = some ⟨false, .running, []⟩) :
    ledger.attempts ((Task.work worker).steps ledger) =
      (ledger.setWorker worker .gone).enter .workerDrained := by
  have closed : ledger.isOpen worker = false := by
    simp [isOpen, found, resting.none_sends]
  simp [Task.steps, queue, found, Worker.gone, attempts, attempt, step?, finish, closed]

theorem attempts_work_cancelled (found : ledger.worker? worker = some ⟨false, .cancelling, []⟩) :
    ledger.attempts ((Task.work worker).steps ledger) = ledger.setWorker worker .gone := by
  simp [Task.steps, found, Worker.gone, attempts, attempt, step?, abort, setWorker]

end Ledger

namespace Timeline

variable {timeline : Timeline} {handle : WorkerHandle}

/-- Workers that can run do so one after the other. -/
theorem runReady_works {workers : List Nat} (ready : timeline.ready = workers.map Task.work) :
    timeline.runReady = { timeline with
      ready := []
      ledger := workers.foldl (fun ledger worker => ledger.attempts ((Task.work worker).steps ledger))
        timeline.ledger } := by
  have weight : Task.totalWeight timeline.ready = workers.length := by
    rw [ready]
    clear ready
    induction workers with
    | nil => rfl
    | cons worker rest ih =>
      simp only [List.map_cons, Task.totalWeight, Task.weight, List.length_cons, ih]
      omega
  unfold runReady
  rw [weight]
  clear weight
  induction workers generalizing timeline with
  | nil =>
    rw [List.map_nil] at ready
    simp only [List.length_nil, runTasks, List.foldl_nil, ← ready]
  | cons worker rest ih =>
    rw [List.map_cons] at ready
    rw [List.length_cons, runTasks, ready]
    exact ih rfl

/-- What the state of a worker is between two operations. -/
theorem Settled.worker_eq (settled : Settled timeline) {current : Option Nat}
    (atWork : timeline.ledger.AtWork current) {worker : Nat}
    (hired : worker < timeline.ledger.workers.length) :
    timeline.ledger.worker? worker = some (if current = some worker then .fresh else .gone) := by
  obtain ⟨state, found⟩ : ∃ state, timeline.ledger.worker? worker = some state :=
    ⟨_, List.getElem?_eq_getElem hired⟩
  have queue := settled.orderly.queue_of_idle settled.idle worker
  have known := atWork worker state found
  rw [Ledger.queue_of_found found] at queue
  rw [found]
  obtain ⟨senderHeld, task, inQueue⟩ := state
  simp only at queue known
  subst queue
  split at known <;> obtain ⟨rfl, rfl⟩ := known
  · rw [if_pos ‹_›]
    rfl
  · rw [if_neg ‹_›]
    rfl

/-! The stop of a worker -/

/-- Only the state of a worker and the entries have changed. -/
def restaffed (timeline : Timeline) (worker : Nat) (state : Worker) (entries : List Entry) :
    Timeline :=
  { timeline with ledger := { timeline.ledger.setWorker worker state with entries } }

/-- The same, and the worker is woken. -/
def called (timeline : Timeline) (worker : Nat) (state : Worker) (entries : List Entry) : Timeline :=
  (timeline.restaffed worker state entries).wake (.work worker)

section

variable {worker : Nat} {state : Worker} {entries : List Entry}

theorem worker?_restaffed (hired : worker < timeline.ledger.workers.length) :
    (timeline.restaffed worker state entries).ledger.worker? worker = some state := by
  simp [restaffed, Ledger.worker?, Ledger.setWorker, hired]

theorem hasEnded_called (hired : worker < timeline.ledger.workers.length) (runs : state.task ≠ .ended) :
    (timeline.called worker state entries).ledger.hasEnded worker = false := by
  rw [called, wake_eq]
  simp [Ledger.hasEnded, worker?_restaffed hired, runs]

theorem restaffed_same (found : timeline.ledger.worker? worker = some state) :
    timeline.restaffed worker state timeline.ledger.entries = timeline := by
  simp only [restaffed, Ledger.setWorker_same found]

theorem perform_release (found : timeline.ledger.worker? worker = some state) :
    timeline.perform [.release worker] =
      timeline.restaffed worker { state with senderHeld := false } timeline.ledger.entries := by
  have released : timeline.ledger.attempts [.release worker] =
      timeline.ledger.setWorker worker { state with senderHeld := false } := by
    simp [Ledger.attempts, Ledger.attempt, Ledger.step?, Ledger.release, found]
  simp only [perform, released]
  rfl

theorem perform_cancel (hired : worker < timeline.ledger.workers.length) :
    (timeline.restaffed worker ⟨false, .running, []⟩ entries).perform [.cancel worker] =
      timeline.restaffed worker ⟨false, .cancelling, []⟩ entries := by
  have known : (timeline.restaffed worker ⟨false, .running, []⟩ entries).ledger.worker? worker =
      some ⟨false, .running, []⟩ := worker?_restaffed hired
  have taken : (timeline.restaffed worker ⟨false, .running, []⟩ entries).ledger.step?
      (.cancel worker) = some (timeline.restaffed worker ⟨false, .cancelling, []⟩ entries).ledger := by
    simp only [Ledger.step?, Ledger.cancel, known, if_true]
    simp [restaffed, Ledger.setWorker]
  rw [perform, show Ledger.attempts _ [.cancel worker] = _ from Ledger.attempt_of_taken taken]
  rfl

theorem release_eq (found : timeline.ledger.worker? handle.worker = some state) :
    handle.release timeline =
      timeline.called handle.worker { state with senderHeld := false } timeline.ledger.entries := by
  rw [WorkerHandle.release, perform_release found, called]

theorem enter_called (event : Event) :
    (timeline.called worker state entries).enter event =
      timeline.called worker state (.event event timeline.pending :: entries) := by
  by_cases known : .work worker ∈ timeline.ready <;>
    simp [called, restaffed, wake, known, enter, Ledger.enter, pending, Ledger.setWorker]

theorem pending_called : (timeline.called worker state entries).pending = timeline.pending := by
  rw [called, wake_eq]
  rfl

theorem cancel_called (hired : handle.worker < timeline.ledger.workers.length) :
    handle.cancel (timeline.called handle.worker ⟨false, .running, []⟩ entries) =
      timeline.called handle.worker ⟨false, .cancelling, []⟩ entries := by
  rw [WorkerHandle.cancel, called, perform_wake, wake_wake, perform_cancel hired, called]

theorem runReady_called (idle : timeline.ready = []) :
    (timeline.called worker state entries).runReady = { timeline with
      ledger := (timeline.restaffed worker state entries).ledger.attempts
        ((Task.work worker).steps (timeline.restaffed worker state entries).ledger) } := by
  have ready : (timeline.called worker state entries).ready = [worker].map Task.work := by
    simp [called, restaffed, wake, idle]
  rw [runReady_works ready, called, wake_eq]
  simp only [List.foldl_cons, List.foldl_nil, restaffed, ← idle]

theorem runReady_released (settled : Settled timeline)
    (hired : worker < timeline.ledger.workers.length) :
    (timeline.called worker ⟨false, .running, []⟩ entries).runReady =
      timeline.restaffed worker .gone (.event .workerDrained timeline.pending :: entries) := by
  have resting : (timeline.restaffed worker ⟨false, .running, []⟩ entries).ledger.Resting :=
    (settled.orderly.resting.setWorker (fun busy => absurd rfl busy) (fun _ => rfl)).reported _ _
  rw [runReady_called settled.idle, Ledger.attempts_work_released resting (worker?_restaffed hired)]
  simp [restaffed, Ledger.enter, Ledger.setWorker, pending]

theorem runReady_cancelled (settled : Settled timeline)
    (hired : worker < timeline.ledger.workers.length) :
    (timeline.called worker ⟨false, .cancelling, []⟩ entries).runReady =
      timeline.restaffed worker .gone entries := by
  rw [runReady_called settled.idle, Ledger.attempts_work_cancelled (worker?_restaffed hired)]
  simp [restaffed, Ledger.setWorker]

end

/-- A worker that has ended is not troubled by another stop. -/
theorem Settled.release_gone (settled : Settled timeline)
    (found : timeline.ledger.worker? handle.worker = some .gone) :
    (handle.release timeline).runReady = timeline := by
  rw [release_eq found, runReady_called settled.idle]
  have same : { Worker.gone with senderHeld := false } = Worker.gone := rfl
  rw [same, restaffed_same found, Ledger.attempts_work_gone found]

/-- What is reported of the stop of a worker that is at work. -/
def stopEvents (graceMs : Nat) (pending : Int) : List Event :=
  if graceMs = 0 then [.workerLate 0 pending, .workerStuck] else [.workerDrained]

/-- Without a grace period no task gets to run: the worker is cancelled and given up on, and it is
aborted once the stop is over. With one, the worker ends at once. -/
theorem Settled.shutdown_fresh (settled : Settled timeline)
    (found : timeline.ledger.worker? handle.worker = some .fresh)
    (awaitable : handle.awaitable = true) (graceMs : Nat) :
    (handle.shutdown graceMs timeline).2.runReady = timeline.restaffed handle.worker .gone
      (((stopEvents graceMs timeline.pending).map (Entry.event · timeline.pending)).reverse ++
        timeline.ledger.entries) := by
  have hired := (List.getElem?_eq_some_iff.mp found).1
  obtain ⟨unqueued, kept⟩ := (settled.orderly.unqueued settled.idle).release handle
  have leaving := leaving_release kept hired
  have released : handle.release timeline =
      timeline.called handle.worker ⟨false, .running, []⟩ timeline.ledger.entries :=
    release_eq found
  unfold WorkerHandle.shutdown
  rw [if_pos awaitable]
  dsimp only
  rw [within_eq leaving unqueued.orderly]
  by_cases hasty : graceMs = 0
  · subst hasty
    have entered : (handle.release timeline).enter (.workerLate 0 (handle.release timeline).pending) =
        timeline.called handle.worker ⟨false, .running, []⟩
          (.event (.workerLate 0 timeline.pending) timeline.pending :: timeline.ledger.entries) := by
      rw [released, enter_called, pending_called]
    have late : handle.stopLate 0 (handle.release timeline) =
        timeline.called handle.worker ⟨false, .cancelling, []⟩
          (.event .workerStuck timeline.pending ::
            .event (.workerLate 0 timeline.pending) timeline.pending :: timeline.ledger.entries) := by
      have left : (timeline.called handle.worker ⟨false, .cancelling, []⟩
          (.event (.workerLate 0 timeline.pending) timeline.pending ::
            timeline.ledger.entries)).ledger.hasEnded handle.worker = false :=
        hasEnded_called hired (by simp)
      simp only [WorkerHandle.stopLate, WorkerHandle.within, Event.reportedMs_zero, entered,
        cancel_called hired, left, if_true, Bool.false_eq_true, if_false, enter_called]
    rw [if_pos rfl, late]
    have runs : (handle.release timeline).ledger.hasEnded handle.worker = false := by
      rw [released]
      exact hasEnded_called hired (by simp)
    simp only [runs, Bool.false_eq_true, if_false]
    exact runReady_cancelled settled hired
  · rw [if_neg hasty, if_pos (leaving.ended unqueued.orderly),
      runReady_idle unqueued.orderly.runReady.2.1, released, runReady_released settled hired,
      stopEvents, if_neg hasty]
    rfl

/-- A worker that is dropped at work is aborted, and nothing is said of it. -/
theorem Settled.drop_fresh (settled : Settled timeline)
    (found : timeline.ledger.worker? handle.worker = some .fresh)
    (awaitable : handle.awaitable = true) :
    (handle.drop timeline).runReady =
      timeline.restaffed handle.worker .gone timeline.ledger.entries := by
  have hired := (List.getElem?_eq_some_iff.mp found).1
  have released : handle.release timeline =
      timeline.called handle.worker ⟨false, .running, []⟩ timeline.ledger.entries :=
    release_eq found
  unfold WorkerHandle.drop
  rw [if_pos awaitable, release_cancel, released, cancel_called hired]
  exact runReady_cancelled settled hired

/-! The start of a worker -/

/-- Only another worker is there. -/
def recruited (timeline : Timeline) : Timeline :=
  { timeline with ledger := timeline.ledger.start }

theorem start_eq (timeline : Timeline) : WorkerHandle.start timeline =
    (⟨timeline.ledger.workers.length, true⟩,
      timeline.recruited.wake (.work timeline.ledger.workers.length)) := rfl

theorem worker?_recruited {worker : Nat} {state : Worker}
    (found : timeline.ledger.worker? worker = some state) :
    timeline.recruited.ledger.worker? worker = some state := by
  have hired := (List.getElem?_eq_some_iff.mp found).1
  simpa [Ledger.worker?, recruited, Ledger.start, List.getElem?_append_left hired] using found

theorem worker?_recruit (timeline : Timeline) :
    timeline.recruited.ledger.worker? timeline.ledger.workers.length = some .fresh := by
  simp [Ledger.worker?, recruited, Ledger.start]

theorem recruited_restaffed {worker : Nat} (hired : worker < timeline.ledger.workers.length)
    (state : Worker) (entries : List Entry) : timeline.recruited.restaffed worker state entries =
      (timeline.restaffed worker state entries).recruited := by
  simp only [recruited, restaffed, Ledger.start_setWorker hired]
  rfl

theorem Settled.runReady_start (settled : Settled timeline) :
    (WorkerHandle.start timeline).2.runReady = timeline.recruited := by
  have idle : timeline.recruited.ready = [] := settled.idle
  have ready : (timeline.recruited.wake (.work timeline.ledger.workers.length)).ready =
      [timeline.ledger.workers.length].map Task.work := by
    simp [wake, idle]
  rw [start_eq, runReady_works ready, wake_eq]
  simp only [List.foldl_cons, List.foldl_nil,
    Ledger.attempts_work_fresh timeline.worker?_recruit, ← idle]

/-- The new worker waits for batches, and then the former one runs. -/
theorem Settled.runReady_pair (settled : Settled timeline) {worker : Nat}
    (hired : worker < timeline.ledger.workers.length) (state : Worker) (entries : List Entry) :
    (((timeline.recruited.restaffed worker state entries).wake
      (.work timeline.ledger.workers.length)).wake (.work worker)).runReady =
    { timeline with
      ledger := (timeline.recruited.restaffed worker state entries).ledger.attempts
        ((Task.work worker).steps (timeline.recruited.restaffed worker state entries).ledger) } := by
  have idle : (timeline.recruited.restaffed worker state entries).ready = [] := settled.idle
  have ready : (((timeline.recruited.restaffed worker state entries).wake
      (.work timeline.ledger.workers.length)).wake (.work worker)).ready =
        [timeline.ledger.workers.length, worker].map Task.work := by
    simp [wake, idle, hired.ne]
  have fresh : (timeline.recruited.restaffed worker state entries).ledger.worker?
      timeline.ledger.workers.length = some .fresh := by
    rw [← timeline.worker?_recruit]
    exact Ledger.worker?_setWorker_ne timeline.recruited.ledger hired.ne' state
  rw [runReady_works ready, wake_eq, wake_eq]
  simp only [List.foldl_cons, List.foldl_nil, Ledger.attempts_work_fresh fresh]
  simp only [restaffed, recruited, ← settled.idle]

/-- The worker in hand gives way to a new one. -/
theorem Settled.runReady_replace (settled : Settled timeline)
    (found : timeline.ledger.worker? handle.worker =
      some (if handle.awaitable then .fresh else .gone)) :
    (handle.drop (WorkerHandle.start timeline).2).runReady =
      timeline.recruited.restaffed handle.worker .gone timeline.ledger.entries := by
  have hired := (List.getElem?_eq_some_iff.mp found).1
  have there := worker?_recruited found
  have more : handle.worker < timeline.recruited.ledger.workers.length :=
    (List.getElem?_eq_some_iff.mp there).1
  rw [start_eq]
  unfold WorkerHandle.drop
  cases awaitable : handle.awaitable with
  | true =>
    rw [awaitable, if_pos rfl] at there
    rw [if_pos rfl, release_cancel, WorkerHandle.release, perform_wake, perform_release there,
      WorkerHandle.cancel, perform_wake, perform_wake, wake_wake]
    simp only [Worker.fresh]
    rw [perform_cancel more, settled.runReady_pair hired,
      Ledger.attempts_work_cancelled (worker?_restaffed more)]
    simp [restaffed, recruited, Ledger.setWorker, Ledger.start]
  | false =>
    rw [awaitable, if_neg Bool.false_ne_true] at there
    have same : ({ Worker.gone with senderHeld := false } : Worker) = .gone := rfl
    rw [if_neg Bool.false_ne_true, WorkerHandle.release, perform_wake, perform_release there, same,
      settled.runReady_pair hired, Ledger.attempts_work_gone (worker?_restaffed more)]
    rfl

end Timeline
end Settlement
end CheckpointSink
