import CheckpointSink.Proofs.Polling
import CheckpointSink.Proofs.Settlement.Orderly
import CheckpointSink.Settlement.Worker

/-!
What the steps of tasks keep, everything that happens on a timeline by itself keeps; what is done to
its workers keeps what their steps keep too. Nothing is asked of the timeline, so this holds for
waits that never end as well.
-/

namespace CheckpointSink.Settlement

namespace Step

/-- The steps that tasks try. -/
def isInner : Step → Bool
  | deliver .. => true
  | receive _ => true
  | upgrade _ => true
  | send _ => true
  | settleInline _ => true
  | take _ => true
  | finish _ => true
  | abort _ => true
  | _ => false

/-- The steps that are taken by whoever starts and stops workers. -/
def isStaffing : Step → Bool
  | start => true
  | release _ => true
  | cancel _ => true
  | _ => false

end Step

/-- What the steps of tasks keep, and the reports of waits. -/
structure Ledger.Lasts (kept : Ledger → Prop) : Prop where
  attempt : ∀ {ledger : Ledger} {step : Step}, step.isInner = true → kept ledger →
    kept (ledger.attempt step)
  report : ∀ {ledger : Ledger} (barrier : Barrier) (elapsedMs : Nat) (pending : Int), kept ledger →
    kept (ledger.enter (barrier.report elapsedMs pending))

/-- What every step but those of a new batch keeps, and every change of the entries. -/
structure Ledger.Outlasts (kept : Ledger → Prop) : Prop extends Ledger.Lasts kept where
  staff : ∀ {ledger : Ledger} {step : Step}, step.isStaffing = true → kept ledger →
    kept (ledger.attempt step)
  entries : ∀ {ledger : Ledger} (entries : List Entry), kept ledger → kept { ledger with entries }

namespace Ledger.Lasts

variable {kept : Ledger → Prop} {timeline : Timeline}

theorem attempts (lasts : Lasts kept) {ledger : Ledger} {steps : List Step}
    (inner : ∀ step ∈ steps, step.isInner = true) (holds : kept ledger) :
    kept (ledger.attempts steps) := by
  induction steps generalizing ledger with
  | nil => exact holds
  | cons step rest ih =>
    exact ih (fun other member => inner other (List.mem_cons_of_mem _ member))
      (lasts.attempt (inner step List.mem_cons_self) holds)

theorem wake (holds : kept timeline.ledger) (task : Task) : kept (timeline.wake task).ledger := by
  rw [Timeline.wake_eq]
  exact holds

theorem wakeAll (holds : kept timeline.ledger) (tasks : List Task) :
    kept (timeline.wakeAll tasks).ledger := by
  rw [Timeline.wakeAll_eq]
  exact holds

/-! Tasks -/

theorem inner_steps (ledger : Ledger) (task : Task) :
    ∀ step ∈ task.steps ledger, step.isInner = true := by
  intro step member
  cases task with
  | forward batch =>
    simp only [Task.steps, List.mem_cons, List.not_mem_nil, or_false] at member
    rcases member with rfl | rfl | rfl | rfl <;> rfl
  | work worker =>
    simp only [Task.steps] at member
    split at member
    · rw [List.mem_singleton.mp member]
      rfl
    · rcases List.mem_append.mp member with takes | finishes
      · rw [List.eq_of_mem_replicate takes]
        rfl
      · rw [List.mem_singleton.mp finishes]
        rfl
  | deliver batch outcome =>
    rw [List.mem_singleton.mp member]
    rfl
  | poll => cases member

theorem pollWait (lasts : Lasts kept) (holds : kept timeline.ledger) (index : Nat) :
    kept (timeline.pollWait index).ledger := by
  unfold Timeline.pollWait
  split
  · exact holds
  · dsimp only
    split <;> exact lasts.report _ _ _ holds

theorem runTask (lasts : Lasts kept) (holds : kept timeline.ledger) (task : Task) :
    kept (timeline.runTask task).ledger := by
  have performed : kept (timeline.perform (task.steps timeline.ledger)).ledger :=
    lasts.attempts (inner_steps timeline.ledger task) holds
  cases task with
  | poll index => exact lasts.pollWait holds index
  | _ => exact wakeAll performed _

theorem runTasks (lasts : Lasts kept) (holds : kept timeline.ledger) (turns : Nat) :
    kept (timeline.runTasks turns).ledger := by
  induction turns generalizing timeline with
  | zero => exact holds
  | succ turns ih =>
    unfold Timeline.runTasks
    split
    · exact holds
    · rename_i task rest _
      have popped : kept (Timeline.ledger { timeline with ready := rest }) := holds
      exact ih (lasts.runTask popped task)

theorem runReady (lasts : Lasts kept) (holds : kept timeline.ledger) :
    kept timeline.runReady.ledger :=
  lasts.runTasks holds _

/-! Time -/

theorem fire (lasts : Lasts kept) (holds : kept timeline.ledger) (deadlineMs : Nat) :
    kept (timeline.fire deadlineMs).ledger :=
  have moved : kept (Timeline.ledger { timeline with
    timers := timeline.timers.filter fun timer => timer.deadlineMs ≠ deadlineMs
    nowMs := deadlineMs }) := holds
  lasts.runReady (wakeAll moved _)

theorem fireUntil (lasts : Lasts kept) (holds : kept timeline.ledger) (deadlines untilMs : Nat) :
    kept (timeline.fireUntil deadlines untilMs).ledger := by
  induction deadlines generalizing timeline with
  | zero => exact holds
  | succ deadlines ih =>
    unfold Timeline.fireUntil
    split
    · exact holds
    · exact ih (lasts.fire holds _)

theorem pass (lasts : Lasts kept) (holds : kept timeline.ledger) (delayMs : Nat) :
    kept (timeline.pass delayMs).ledger :=
  lasts.fireUntil holds _ _

theorem wait (lasts : Lasts kept) (holds : kept timeline.ledger) (barrier : Barrier) :
    kept (timeline.wait barrier).2.ledger :=
  drain_keeps Timeline.count barrier (fun timeline => kept timeline.ledger) (fun _ holds => holds)
    (fun elapsedMs pending _ holds => lasts.report barrier elapsedMs pending holds)
    (fun _ holds => lasts.pass holds _) _ 0 timeline holds

theorem spawnWait (lasts : Lasts kept) (holds : kept timeline.ledger) (barrier : Barrier) :
    kept (timeline.spawnWait barrier).2.ledger :=
  have begun : kept (Timeline.ledger { timeline with
    waits := timeline.waits ++ [⟨barrier, timeline.nowMs, none, false⟩] }) := holds
  lasts.runReady (wake begun _)

theorem passUntilOver (lasts : Lasts kept) (holds : kept timeline.ledger) (index deadlines : Nat) :
    kept (timeline.passUntilOver index deadlines).ledger := by
  induction deadlines generalizing timeline with
  | zero => exact holds
  | succ deadlines ih =>
    unfold Timeline.passUntilOver
    split
    · exact holds
    · split
      · exact holds
      · exact ih (lasts.fire holds _)

theorem join (lasts : Lasts kept) (holds : kept timeline.ledger) (index : Nat) :
    kept (timeline.join index).2.ledger := by
  unfold Timeline.join
  split
  · exact holds
  · split
    · exact holds
    · dsimp only
      split <;> exact lasts.passUntilOver holds _ _

/-! Resolvers -/

theorem useResolver (lasts : Lasts kept) (holds : kept timeline.ledger) (batch : Nat)
    (outcome : Outcome) : kept (timeline.useResolver batch outcome).ledger := by
  unfold Timeline.useResolver
  split
  · have removed : kept (timeline.removeResolver batch).ledger := holds
    exact wake (lasts.attempt rfl removed) _
  · exact holds

theorem useResolvers (lasts : Lasts kept) (holds : kept timeline.ledger)
    (outcomes : List (Nat × Outcome)) : kept (timeline.useResolvers outcomes).ledger := by
  induction outcomes generalizing timeline with
  | nil => exact holds
  | cons given rest ih => exact ih (lasts.useResolver holds given.1 given.2)

theorem resolve (lasts : Lasts kept) (holds : kept timeline.ledger) (batch : Nat)
    (outcome : Outcome) : kept (timeline.resolve batch outcome).2.ledger := by
  unfold Timeline.resolve
  split
  · exact lasts.runReady (lasts.useResolver holds batch outcome)
  · exact holds

theorem resolveAll (lasts : Lasts kept) (holds : kept timeline.ledger)
    (outcomes : List (Nat × Outcome)) : kept (timeline.resolveAll outcomes).2.ledger := by
  induction outcomes generalizing timeline with
  | nil => exact holds
  | cons given rest ih => exact ih (lasts.resolve holds given.1 given.2)

theorem resolveAfter (lasts : Lasts kept) (holds : kept timeline.ledger) (batch delayMs : Nat)
    (outcome : Outcome) : kept (timeline.resolveAfter batch delayMs outcome).2.ledger := by
  unfold Timeline.resolveAfter
  split
  · have set : kept ((timeline.removeResolver batch).setTimer delayMs
        (.deliver batch outcome)).ledger := holds
    exact lasts.pass set 0
  · exact holds

/-- The grace period of a worker. -/
theorem within (lasts : Lasts kept) (holds : kept timeline.ledger) (handle : WorkerHandle)
    (graceMs : Nat) : kept (handle.within graceMs timeline).ledger := by
  have awaitEnd {timeline : Timeline} (holds : kept timeline.ledger) (deadlines untilMs : Nat) :
      kept (handle.awaitEnd deadlines untilMs timeline).ledger := by
    induction deadlines generalizing timeline with
    | zero => exact holds
    | succ deadlines ih =>
      unfold WorkerHandle.awaitEnd
      split
      · exact holds
      · split
        · exact holds
        · exact ih (lasts.fire holds _)
  unfold WorkerHandle.within
  split
  · exact holds
  · exact awaitEnd (lasts.runReady holds) _ _

end Ledger.Lasts

/-! Workers -/

namespace Ledger.Outlasts

variable {kept : Ledger → Prop} {timeline : Timeline}

theorem enter (lasts : Outlasts kept) (holds : kept timeline.ledger) (event : Event) :
    kept (timeline.enter event).ledger :=
  lasts.entries _ holds

theorem single (lasts : Outlasts kept) (holds : kept timeline.ledger) {step : Step}
    (staffing : step.isStaffing = true) (task : Task) :
    kept ((timeline.perform [step]).wake task).ledger :=
  Lasts.wake (lasts.staff staffing holds) task

theorem start (lasts : Outlasts kept) (holds : kept timeline.ledger) :
    kept (WorkerHandle.start timeline).2.ledger :=
  lasts.single holds rfl _

theorem stopLate (lasts : Outlasts kept) (holds : kept timeline.ledger) (handle : WorkerHandle)
    (graceMs : Nat) : kept (handle.stopLate graceMs timeline).ledger := by
  have warned := lasts.enter holds (.workerLate (Event.reportedMs graceMs) timeline.pending)
  have cancelled : kept (handle.cancel (timeline.enter _)).ledger := lasts.single warned rfl _
  have waited := lasts.within cancelled handle graceMs
  unfold WorkerHandle.stopLate
  dsimp only
  split
  · exact waited
  · exact lasts.enter waited _

theorem shutdown (lasts : Outlasts kept) (holds : kept timeline.ledger) (handle : WorkerHandle)
    (graceMs : Nat) : kept (handle.shutdown graceMs timeline).2.ledger := by
  have released : kept (handle.release timeline).ledger := lasts.single holds rfl _
  have waited := lasts.within released handle graceMs
  unfold WorkerHandle.shutdown
  split
  · dsimp only
    split
    · exact waited
    · exact lasts.stopLate waited handle graceMs
  · exact released

end Ledger.Outlasts

end CheckpointSink.Settlement
