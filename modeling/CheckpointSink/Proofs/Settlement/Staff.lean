import CheckpointSink.Proofs.Settlement.Outside

/-!
The worker of a sink on its timeline: its start, the batches that it is given, and its stop, which
loses nothing because a worker is only aborted with an empty queue.
-/

namespace CheckpointSink.Settlement

namespace Ledger

theorem attempt_count (ledger : Ledger) (delivered : Option Outcome) :
    ledger.attempt (.count delivered) = ledger.count delivered := rfl

theorem batch?_count {ledger : Ledger} (fresh : ledger.next ∉ ledger.ids)
    (delivered : Option Outcome) :
    (ledger.count delivered).batch? ledger.next = some ⟨ledger.next, delivered, .counted⟩ := by
  have absent : ledger.batches.find? (fun batch => decide (batch.id = ledger.next)) = none := by
    apply List.find?_eq_none.mpr
    intro batch member same
    have this : batch.id = ledger.next := by simpa using same
    exact fresh (this ▸ List.mem_map_of_mem member)
  simp [batch?, count, List.find?_append, absent]

/-- A batch that is counted and attached waits for its outcome. -/
theorem attempts_submit {ledger : Ledger} (fresh : ledger.next ∉ ledger.ids) {worker : Nat}
    {state : Worker} (found : ledger.worker? worker = some state) (delivered : Option Outcome) :
    ledger.attempts [.count delivered, .attach ledger.next worker] = { ledger with
      pending := ledger.pending + 1
      next := ledger.next + 1
      batches := ledger.batches ++ [⟨ledger.next, delivered,
        .waiting (if state.senderHeld then some worker else none)⟩] } := by
  have known : (ledger.count delivered).worker? worker = some state := found
  have attached : (ledger.count delivered).step? (.attach ledger.next worker) =
      some ((ledger.count delivered).setStage ledger.next
        (.waiting (if state.senderHeld then some worker else none))) := by
    simp only [step?, attach, batch?_count fresh, known]
  rw [attempts_cons, attempt_count, attempts_cons, attempt_of_taken attached, attempts_nil]
  have others : ledger.batches.map (fun batch => if batch.id = ledger.next then
      { batch with stage := .waiting (if state.senderHeld then some worker else none) }
      else batch) = ledger.batches := by
    conv_rhs => rw [← List.map_id ledger.batches]
    apply List.map_congr_left
    intro batch member
    rw [if_neg fun same : batch.id = ledger.next => fresh (same ▸ List.mem_map_of_mem member)]
    rfl
  simp [setStage, count, others]

theorem undelivered_submit {ledger : Ledger} (fresh : ledger.next ∉ ledger.ids) {worker : Nat}
    {state : Worker} (found : ledger.worker? worker = some state) (delivered : Option Outcome) :
    (ledger.attempts [.count delivered, .attach ledger.next worker]).undelivered =
      ledger.undelivered ++ if delivered.isNone then [ledger.next] else [] := by
  rw [attempts_submit fresh found]
  cases delivered <;> simp [undelivered]

theorem Resting.submit {ledger : Ledger} (resting : ledger.Resting)
    (fresh : ledger.next ∉ ledger.ids) {worker : Nat} {state : Worker}
    (found : ledger.worker? worker = some state) (delivered : Option Outcome) :
    (ledger.attempts [.count delivered, .attach ledger.next worker]).Resting := by
  rw [attempts_submit fresh found]
  refine ⟨?_, resting.queues, resting.senders, resting.discarded⟩
  intro batch member
  rcases List.mem_append.mp member with old | new
  · exact resting.waiting batch old
  · rw [List.mem_singleton.mp new]
    exact ⟨_, rfl⟩

theorem Booked.fresh {ledger : Ledger} (booked : ledger.Booked) : ledger.next ∉ ledger.ids := by
  obtain ⟨history, run⟩ := booked.run
  intro member
  have bound := run.accounted.lt_next (List.mem_append_left _ (List.mem_append_left _ member))
  omega

theorem queue_start (ledger : Ledger) (worker : Nat) :
    ledger.start.queue worker = ledger.queue worker := by
  simp only [queue, worker?, start]
  by_cases known : worker < ledger.workers.length
  · rw [List.getElem?_append_left known]
  · have past : ledger.workers.length ≤ worker := by omega
    rw [List.getElem?_append_right past, List.getElem?_eq_none past]
    cases worker - ledger.workers.length <;> rfl

theorem Resting.start {ledger : Ledger} (resting : ledger.Resting) : ledger.start.Resting where
  waiting := resting.waiting
  queues := by
    intro state member
    rcases List.mem_append.mp member with old | new
    · exact resting.queues state old
    · rw [List.mem_singleton.mp new]
      exact fun busy => absurd rfl busy
  senders := by
    intro state member
    rcases List.mem_append.mp member with old | new
    · exact resting.senders state old
    · rw [List.mem_singleton.mp new]
      exact fun _ => rfl
  discarded := resting.discarded

/-- A worker whose state changes keeps its queue. -/
theorem queue_restaffed {ledger : Ledger} {worker : Nat} {old new : Worker}
    (found : ledger.worker? worker = some old) (same : new.queue = old.queue) (other : Nat) :
    (ledger.setWorker worker new).queue other = ledger.queue other := by
  by_cases this : other = worker
  · subst this
    rw [queue_setWorker found, queue_of_found found, same]
  · exact queue_setWorker_ne ledger this new

end Ledger

namespace Timeline

variable {timeline : Timeline} {moving : List Nat}

/-- A change of the workers that leaves the batches and the queues alone. -/
theorem Orderly.restaff (orderly : Orderly moving timeline) {later : Ledger} (booked : later.Booked)
    (resting : later.Resting) (batches : later.batches = timeline.ledger.batches)
    (queues : ∀ worker, later.queue worker = timeline.ledger.queue worker) :
    Orderly moving { timeline with ledger := later } where
  booked := booked
  resting := resting
  forwards := by
    intro batch member
    rw [batches] at member
    exact orderly.forwards batch member
  works := by
    intro worker busy
    rw [queues] at busy
    exact orderly.works worker busy
  custody := by
    simp only [Ledger.undelivered, batches]
    exact orderly.custody
  waits := orderly.waits

theorem Orderly.start (orderly : Orderly moving timeline) :
    Orderly moving (WorkerHandle.start timeline).2 ∧ Kept timeline (WorkerHandle.start timeline).2 ∧
      (WorkerHandle.start timeline).1.worker < (WorkerHandle.start timeline).2.ledger.workers.length := by
  have started : Orderly moving (timeline.perform [.start]) :=
    orderly.restaff (orderly.booked.attempts [.start]) orderly.resting.start rfl
      (Ledger.queue_start timeline.ledger)
  refine ⟨started.wake _ rfl, (Kept.perform timeline rfl).trans (.wakeAll _ [.work _]), ?_⟩
  simp only [WorkerHandle.start]
  rw [wake_eq]
  simp [perform, Ledger.attempts, Ledger.attempt, Ledger.step?, Ledger.start]

theorem Orderly.submit (orderly : Orderly [] timeline) {worker : Nat} {state : Worker}
    (found : timeline.ledger.worker? worker = some state) (delivered : Option Outcome) :
    Orderly (if delivered.isNone then [timeline.ledger.next] else [])
      (timeline.submit delivered worker) ∧
    Kept { timeline with ledger := { timeline.ledger with next := timeline.ledger.next + 1 } }
      (timeline.submit delivered worker) := by
  have submitted := Ledger.attempts_submit orderly.booked.fresh found delivered
  have booked := orderly.booked.attempts [.count delivered, .attach timeline.ledger.next worker]
  have same := delivering_wake_plain (timeline.perform
    [.count delivered, .attach timeline.ledger.next worker]) (.forward timeline.ledger.next) rfl
  unfold Timeline.submit
  rw [wake_eq]
  refine ⟨⟨booked, ?_, ?_, ?_, ?_, orderly.waits⟩,
    rfl, rfl, rfl, fun _ member => .inl member, ?_, ?_⟩
  · exact orderly.resting.submit orderly.booked.fresh found delivered
  · intro batch member given
    simp only [perform, submitted] at member
    rw [mem_wake]
    rcases List.mem_append.mp member with old | new
    · exact .inl (orderly.forwards batch old given)
    · rw [List.mem_singleton.mp new]
      exact .inr rfl
  · intro other busy
    rw [mem_wake]
    simp only [perform, submitted] at busy
    exact .inl (orderly.works other busy)
  · show (timeline.ledger.attempts
        [.count delivered, .attach timeline.ledger.next worker]).undelivered.Perm
      (_ ++ (timeline.resolvers ++ (timeline.delayed.map Prod.fst ++ ((timeline.perform
        [.count delivered, .attach timeline.ledger.next worker]).wake
          (.forward timeline.ledger.next)).delivering)))
    rw [same, Ledger.undelivered_submit orderly.booked.fresh found delivered]
    exact List.perm_append_comm.trans (orderly.custody.append_left _)
  · simp only [perform, submitted]
  · exact .of_workers (by simp only [perform, submitted])

theorem Orderly.addResolver {batch : Nat} (orderly : Orderly [batch] timeline) :
    Orderly [] (timeline.addResolver batch) := by
  refine ⟨orderly.booked, orderly.resting, orderly.forwards, orderly.works, ?_, orderly.waits⟩
  apply orderly.custody.trans
  show (batch :: (timeline.resolvers ++ _)).Perm (timeline.resolvers ++ [batch] ++ _)
  rw [List.append_assoc]
  exact List.perm_middle.symm

/-! The stop of a worker -/

/-- A timeline in order on which no worker has anything in its queue. -/
structure Unqueued (timeline : Timeline) : Prop where
  orderly : Orderly [] timeline
  queues : ∀ worker, timeline.ledger.queue worker = []

theorem Orderly.unqueued (orderly : Orderly [] timeline) (idle : timeline.ready = []) :
    Unqueued timeline :=
  ⟨orderly, orderly.queue_of_idle idle⟩

theorem Unqueued.enter (unqueued : Unqueued timeline) (event : Event) :
    Unqueued (timeline.enter event) :=
  ⟨unqueued.orderly.enter event, unqueued.queues⟩

theorem Unqueued.useResolvers (unqueued : Unqueued timeline) (outcomes : List (Nat × Outcome)) :
    Unqueued (timeline.useResolvers outcomes) := by
  refine ⟨(unqueued.orderly.useResolvers outcomes).1, ?_⟩
  obtain ⟨orderly, queues⟩ := unqueued
  induction outcomes generalizing timeline with
  | nil => exact queues
  | cons given rest ih =>
    apply ih (orderly.useResolver given.1 given.2).1
    intro worker
    show (timeline.useResolver given.1 given.2).ledger.queue worker = []
    unfold Timeline.useResolver
    split
    · rename_i held
      have delivered := (orderly.removeResolver (hasResolver_iff.mp held)).delivered given.2
      rw [wake_eq]
      simp only [perform, delivered]
      exact queues worker
    · exact queues worker

/-- The worker of a timeline changes in anything but its queue, and is woken. -/
theorem Orderly.restaffed (orderly : Orderly moving timeline) {worker : Nat} {old : Worker}
    (found : timeline.ledger.worker? worker = some old) (new : Worker) (same : new.queue = old.queue)
    (runs : new.queue ≠ [] → new.task = .running)
    (sender : new.senderHeld = true → new.task = .running) {step : Step}
    (taken : timeline.ledger.step? step = some (timeline.ledger.setWorker worker new)) :
    Orderly moving ((timeline.perform [step]).wake (.work worker)) ∧
      Kept timeline ((timeline.perform [step]).wake (.work worker)) := by
  have reached : timeline.ledger.attempts [step] = timeline.ledger.setWorker worker new :=
    Ledger.attempt_of_taken taken
  have changed : Orderly moving (timeline.perform [step]) := by
    refine orderly.restaff (orderly.booked.attempts [step]) ?_ ?_ ?_
    · rw [reached]
      exact orderly.resting.setWorker runs sender
    · rw [reached]
      rfl
    · rw [reached]
      exact Ledger.queue_restaffed found same
  refine ⟨changed.wake _ rfl, (Kept.perform timeline ?_).trans (.wakeAll _ [.work worker])⟩
  rw [reached]
  rfl

/-- Where no queue has anything in it, none has afterwards. -/
theorem Unqueued.restaff (unqueued : Unqueued timeline) {worker : Nat} {old : Worker}
    (found : timeline.ledger.worker? worker = some old) (new : Worker) (same : new.queue = old.queue)
    (sender : new.senderHeld = true → new.task = .running) {step : Step}
    (taken : timeline.ledger.step? step = some (timeline.ledger.setWorker worker new)) :
    Unqueued ((timeline.perform [step]).wake (.work worker)) ∧
      Kept timeline ((timeline.perform [step]).wake (.work worker)) := by
  have reached : timeline.ledger.attempts [step] = timeline.ledger.setWorker worker new :=
    Ledger.attempt_of_taken taken
  have empty := unqueued.queues worker
  rw [Ledger.queue_of_found found, ← same] at empty
  obtain ⟨after, kept⟩ := unqueued.orderly.restaffed found new same
    (fun busy => absurd empty busy) sender taken
  refine ⟨⟨after, ?_⟩, kept⟩
  intro other
  rw [wake_eq]
  simp only [perform, reached, Ledger.queue_restaffed found same, unqueued.queues]

theorem perform_refused {step : Step} (refused : timeline.ledger.step? step = none) :
    timeline.perform [step] = timeline := by
  have reached : timeline.ledger.attempts [step] = timeline.ledger :=
    Ledger.attempt_of_refused refused
  rw [perform, reached]

/-- A step that cannot be taken only wakes the worker. -/
theorem Unqueued.refused (unqueued : Unqueued timeline) {step : Step}
    (refused : timeline.ledger.step? step = none) (worker : Nat) :
    Unqueued ((timeline.perform [step]).wake (.work worker)) ∧
      Kept timeline ((timeline.perform [step]).wake (.work worker)) := by
  rw [perform_refused refused]
  refine ⟨⟨unqueued.orderly.wake _ rfl, ?_⟩, .wakeAll _ [.work worker]⟩
  intro other
  rw [wake_eq]
  exact unqueued.queues other

/-- A worker keeps what is in its queue when its channel is given up. -/
theorem Orderly.release (orderly : Orderly moving timeline) (handle : WorkerHandle) :
    Orderly moving (handle.release timeline) ∧ Kept timeline (handle.release timeline) := by
  cases found : timeline.ledger.worker? handle.worker with
  | none =>
    have refused : timeline.ledger.step? (.release handle.worker) = none := by
      simp [Ledger.step?, Ledger.release, found]
    rw [WorkerHandle.release, perform_refused refused]
    exact ⟨orderly.wake _ rfl, .wakeAll _ [.work handle.worker]⟩
  | some state =>
    exact orderly.restaffed found { state with senderHeld := false } rfl
      (orderly.resting.queues state (Ledger.mem_workers found)) (by simp)
      (by simp only [Ledger.step?, Ledger.release, found])

theorem Unqueued.release (unqueued : Unqueued timeline) (handle : WorkerHandle) :
    Unqueued (handle.release timeline) ∧ Kept timeline (handle.release timeline) := by
  cases found : timeline.ledger.worker? handle.worker with
  | none => exact unqueued.refused (by simp [Ledger.step?, Ledger.release, found]) handle.worker
  | some state =>
    exact unqueued.restaff found { state with senderHeld := false } rfl (by simp)
      (by simp only [Ledger.step?, Ledger.release, found])

theorem holdsSender_release (handle : WorkerHandle) (timeline : Timeline) :
    (handle.release timeline).ledger.holdsSender handle.worker = false := by
  rw [WorkerHandle.release, wake_eq]
  cases found : timeline.ledger.worker? handle.worker with
  | none => simp [perform, Ledger.attempts, Ledger.attempt, Ledger.step?, Ledger.release,
      Ledger.holdsSender, found]
  | some state =>
    have changed := Ledger.worker?_setWorker found { state with senderHeld := false }
    simp [perform, Ledger.attempts, Ledger.attempt, Ledger.step?, Ledger.release,
      Ledger.holdsSender, found, changed]

/-- A worker whose channel was given up can be cancelled: with its queue empty, nothing is lost. -/
theorem Unqueued.cancel (unqueued : Unqueued timeline) (handle : WorkerHandle)
    (released : timeline.ledger.holdsSender handle.worker = false) :
    Unqueued (handle.cancel timeline) ∧ Kept timeline (handle.cancel timeline) := by
  cases found : timeline.ledger.worker? handle.worker with
  | none => exact unqueued.refused (by simp [Ledger.step?, Ledger.cancel, found]) handle.worker
  | some state =>
    have shut : state.senderHeld = false := by
      simpa [Ledger.holdsSender, found] using released
    by_cases runs : state.task = .running
    · exact unqueued.restaff found { state with task := .cancelling } rfl
        (fun held => by simp [shut] at held) (by simp [Ledger.step?, Ledger.cancel, found, runs])
    · exact unqueued.refused (by simp [Ledger.step?, Ledger.cancel, found, runs]) handle.worker

/-! The end of a worker -/

/-- A worker whose channel was given up: it has ended, or it ends when it runs next. -/
structure Leaving (worker : Nat) (timeline : Timeline) : Prop where
  hired : worker < timeline.ledger.workers.length
  released : timeline.ledger.holdsSender worker = false
  ends : timeline.ledger.hasEnded worker = true ∨ .work worker ∈ timeline.ready

theorem mem_runTask (timeline : Timeline) (task : Task) {other : Task}
    (member : other ∈ timeline.ready) : other ∈ (timeline.runTask task).ready := by
  cases task with
  | poll index =>
    rw [show (timeline.runTask (.poll index)).ready = timeline.ready from (polled _ index).ready]
    exact member
  | _ => exact mem_wakeAll.mpr (.inl member)

/-- Nobody keeps the channel open but whoever started the worker, so it ends when it runs. -/
theorem Leaving.runTask {worker : Nat} (leaving : Leaving worker timeline)
    (orderly : Orderly moving timeline) {task : Task} {rest : List Task}
    (ready : timeline.ready = task :: rest) :
    Leaving worker ({ timeline with ready := rest }.runTask task) := by
  have staffed := (Kept.runTask orderly ready).staffed
  refine ⟨Nat.lt_of_lt_of_le leaving.hired staffed.hired,
    staffed.released worker leaving.hired leaving.released, ?_⟩
  rcases leaving.ends with ended | woken
  · exact .inl (staffed.ended worker leaving.hired ended)
  · rw [ready] at woken
    rcases List.mem_cons.mp woken with rfl | later
    · obtain ⟨history, run⟩ := orderly.booked.run
      exact .inl ((Ledger.worked orderly.resting run worker).ended leaving.released)
    · exact .inr (mem_runTask { timeline with ready := rest } task later)

theorem Leaving.runTasks {worker : Nat} (leaving : Leaving worker timeline)
    (orderly : Orderly moving timeline) (turns : Nat) : Leaving worker (timeline.runTasks turns) := by
  induction turns generalizing timeline with
  | zero => exact leaving
  | succ turns ih =>
    unfold Timeline.runTasks
    cases ready : timeline.ready with
    | nil => exact leaving
    | cons task rest => exact ih (leaving.runTask orderly ready) (orderly.runTask ready)

/-- Whatever else can run, the worker has ended when no task can run any more. -/
theorem Leaving.ended {worker : Nat} (leaving : Leaving worker timeline)
    (orderly : Orderly moving timeline) : timeline.runReady.ledger.hasEnded worker = true := by
  have idle := orderly.runReady.2.1
  rcases (leaving.runTasks orderly (Task.totalWeight timeline.ready)).ends with ended | woken
  · exact ended
  · rw [show (timeline.runTasks _).ready = [] from idle] at woken
    cases woken

/-- No time passes in the grace period of a worker that ends when it runs. -/
theorem within_eq {handle : WorkerHandle} (leaving : Leaving handle.worker timeline)
    (orderly : Orderly moving timeline) (graceMs : Nat) :
    handle.within graceMs timeline = if graceMs = 0 then timeline else timeline.runReady := by
  unfold WorkerHandle.within
  split
  · rfl
  · rw [WorkerHandle.awaitEnd, if_pos (leaving.ended orderly)]

theorem leaving_release {handle : WorkerHandle} (kept : Kept timeline (handle.release timeline))
    (hired : handle.worker < timeline.ledger.workers.length) :
    Leaving handle.worker (handle.release timeline) :=
  ⟨Nat.lt_of_lt_of_le hired kept.staffed.hired, holdsSender_release handle timeline,
    .inr (mem_wake.mpr (.inr rfl))⟩

theorem leaving_cancel {handle : WorkerHandle} (kept : Kept timeline (handle.cancel timeline))
    (hired : handle.worker < timeline.ledger.workers.length)
    (released : timeline.ledger.holdsSender handle.worker = false) :
    Leaving handle.worker (handle.cancel timeline) :=
  ⟨Nat.lt_of_lt_of_le hired kept.staffed.hired, kept.staffed.released _ hired released,
    .inr (mem_wake.mpr (.inr rfl))⟩

theorem Unqueued.within (unqueued : Unqueued timeline) {handle : WorkerHandle}
    (leaving : Leaving handle.worker timeline) (graceMs : Nat) :
    Unqueued (handle.within graceMs timeline) ∧ Kept timeline (handle.within graceMs timeline) := by
  rw [within_eq leaving unqueued.orderly]
  split
  · exact ⟨unqueued, .refl timeline⟩
  · obtain ⟨after, idle, kept⟩ := unqueued.orderly.runReady
    exact ⟨after.unqueued idle, kept⟩

theorem Unqueued.stopLate (unqueued : Unqueued timeline) (handle : WorkerHandle) (graceMs : Nat)
    (hired : handle.worker < timeline.ledger.workers.length)
    (released : timeline.ledger.holdsSender handle.worker = false) :
    Unqueued (handle.stopLate graceMs timeline) ∧ Kept timeline (handle.stopLate graceMs timeline) := by
  obtain ⟨cancelled, keptCancel⟩ :=
    (unqueued.enter (.workerLate (Event.reportedMs graceMs) timeline.pending)).cancel handle released
  obtain ⟨after, kept⟩ := cancelled.within (leaving_cancel keptCancel hired released) graceMs
  have reported := Kept.enter timeline (.workerLate (Event.reportedMs graceMs) timeline.pending)
  have all := (reported.trans keptCancel).trans kept
  rw [WorkerHandle.stopLate]
  split
  · exact ⟨after, all⟩
  · exact ⟨after.enter _, all.trans (.enter _ _)⟩

/-- However long the grace period is, the stop of a worker leaves every batch where it was. -/
theorem Unqueued.shutdown (unqueued : Unqueued timeline) (handle : WorkerHandle) (graceMs : Nat)
    (hired : handle.worker < timeline.ledger.workers.length) :
    Orderly [] (handle.shutdown graceMs timeline).2 ∧
      Kept timeline (handle.shutdown graceMs timeline).2 := by
  obtain ⟨released, kept⟩ := unqueued.release handle
  have leaving := leaving_release kept hired
  unfold WorkerHandle.shutdown
  split
  · obtain ⟨after, keptWithin⟩ := released.within leaving graceMs
    have still := Nat.lt_of_lt_of_le leaving.hired keptWithin.staffed.hired
    have shut := keptWithin.staffed.released handle.worker leaving.hired leaving.released
    obtain ⟨late, keptLate⟩ := after.stopLate handle graceMs still shut
    simp only
    split
    · exact ⟨after.orderly, kept.trans keptWithin⟩
    · exact ⟨late.orderly, (kept.trans keptWithin).trans keptLate⟩
  · exact ⟨released.orderly, kept⟩

end Timeline
end CheckpointSink.Settlement
