import CheckpointSink.Proofs.Settlement.Paths
import CheckpointSink.Proofs.Settlement.Unwatched

/-!
What is done from outside leaves a timeline in order, apart from its waits: waits of any kind, the use
of resolvers, the start of a worker, new batches, and the stop of a worker with some grace.
-/

namespace CheckpointSink.Settlement

namespace Timeline

variable {timeline : Timeline} {moving : List Nat}

theorem Tended.clear (tended : Tended moving timeline) : Tended moving timeline.clearEntries where
  booked := tended.booked.clear
  resting := tended.resting.reported _ _
  forwards := tended.forwards
  works := tended.works
  custody := tended.custody
  waits := tended.waits

/-! Waits -/

/-- A timeline on which nothing happens until time moves on, apart from its waits. -/
structure Calm (timeline : Timeline) : Prop where
  tended : Tended [] timeline
  idle : timeline.ready = []

theorem Calm.pass (calm : Calm timeline) (delayMs : Nat) : Calm (timeline.pass delayMs) :=
  have passed := calm.tended.pass calm.idle delayMs
  ⟨passed.1, passed.2.1⟩

theorem Calm.fire (calm : Calm timeline) (deadlineMs : Nat) : Calm (timeline.fire deadlineMs) :=
  ⟨(calm.tended.fire calm.idle deadlineMs).1, ready_runReady _⟩

theorem Tended.calm (tended : Tended [] timeline) : Calm timeline.runReady :=
  ⟨tended.runReady.1, timeline.ready_runReady⟩

theorem Calm.wait (calm : Calm timeline) (barrier : Barrier) : Calm (timeline.wait barrier).2 :=
  drain_keeps count barrier Calm (fun _ calm => calm)
    (fun _ _ _ calm => ⟨calm.tended.enter _, calm.idle⟩) (fun _ calm => calm.pass _) _ 0 timeline calm

theorem Tended.spawnWait (tended : Tended [] timeline) (barrier : Barrier) :
    Calm (timeline.spawnWait barrier).2 := by
  have spawned : Tended [] { timeline with
      waits := timeline.waits ++ [⟨barrier, timeline.nowMs, none, false⟩] } := tended
  have woken := Orderly.wake spawned (.poll timeline.waits.length) rfl
  rw [← unwatched_wake] at woken
  exact Tended.calm woken

theorem Calm.passUntilOver (calm : Calm timeline) (index fuel : Nat) :
    Calm (timeline.passUntilOver index fuel) := by
  induction fuel generalizing timeline with
  | zero => exact calm
  | succ fuel ih =>
    unfold Timeline.passUntilOver
    split
    · exact calm
    · split
      · exact calm
      · exact ih (calm.fire _)

theorem Calm.join (calm : Calm timeline) (index : Nat) : Calm (timeline.join index).2 := by
  unfold Timeline.join
  split
  · exact calm
  · split
    · exact calm
    · have later := calm.passUntilOver index
      dsimp only
      split
      · exact later _
      · exact ⟨(later _).tended, (later _).idle⟩

/-- A timeline in order, apart from its waits, on which no task is just about to use a resolver. -/
structure Poised (timeline : Timeline) : Prop where
  tended : Tended [] timeline
  plain : ∀ task ∈ timeline.ready, task.delivery? = none

theorem Calm.poised (calm : Calm timeline) : Poised timeline :=
  ⟨calm.tended, fun _ member => absurd (calm.idle ▸ member) List.not_mem_nil⟩

theorem Poised.enter (poised : Poised timeline) (event : Event) : Poised (timeline.enter event) :=
  ⟨poised.tended.enter event, poised.plain⟩

theorem Poised.clear (poised : Poised timeline) : Poised timeline.clearEntries :=
  ⟨poised.tended.clear, poised.plain⟩

/-- A task that is woken takes no resolver with it. -/
theorem plain_wake (plain : ∀ task ∈ timeline.ready, task.delivery? = none) {task : Task}
    (woken : task.delivery? = none) :
    ∀ other ∈ (timeline.wake task).ready, other.delivery? = none := by
  intro other member
  rcases mem_wake.mp member with old | rfl
  · exact plain other old
  · exact woken

theorem Poised.runTask (poised : Poised timeline) {task : Task} {rest : List Task}
    (ready : timeline.ready = task :: rest) :
    Poised ({ timeline with ready := rest }.runTask task) := by
  refine ⟨(poised.tended.runTask ready).1, ?_⟩
  have others : ∀ other ∈ rest, other.delivery? = none := fun other member =>
    poised.plain other (ready ▸ List.mem_cons_of_mem _ member)
  intro other member
  cases task with
  | poll index =>
    have same := (polled { timeline with ready := rest } index).ready
    rw [Timeline.runTask, same] at member
    exact others other member
  | _ =>
    rcases mem_wakeAll.mp member with old | woken
    · exact others other old
    · exact Task.wakes_plain woken

theorem Poised.runTasks (poised : Poised timeline) (turns : Nat) :
    Poised (timeline.runTasks turns) := by
  induction turns generalizing timeline with
  | zero => exact poised
  | succ turns ih =>
    unfold Timeline.runTasks
    cases ready : timeline.ready with
    | nil => exact poised
    | cons task rest => exact ih (poised.runTask ready)

/-! Resolvers -/

theorem unwatched_useResolver (timeline : Timeline) (batch : Nat) (outcome : Outcome) :
    (timeline.useResolver batch outcome).unwatched = timeline.unwatched.useResolver batch outcome := by
  have same : timeline.unwatched.hasResolver batch = timeline.hasResolver batch := rfl
  unfold useResolver
  rw [same]
  split
  · exact unwatched_wake _ _
  · rfl

theorem Tended.useResolver (tended : Tended moving timeline) (batch : Nat) (outcome : Outcome) :
    Tended moving (timeline.useResolver batch outcome) := by
  have used := (Orderly.useResolver tended batch outcome).1
  rw [← unwatched_useResolver] at used
  exact used

/-- Where no time passes, only the ledger and the tasks that can run have changed. -/
theorem useResolver_eq (timeline : Timeline) (batch : Nat) (outcome : Outcome) :
    timeline.useResolver batch outcome = { timeline with
      resolvers := timeline.resolvers.erase batch
      ledger := (timeline.useResolver batch outcome).ledger
      ready := (timeline.useResolver batch outcome).ready } := by
  unfold useResolver
  split
  · rw [wake_eq]
    rfl
  · rename_i unheld
    rw [List.erase_of_not_mem (mt hasResolver_iff.mpr unheld)]

/-- The outcome of a resolver in hand is on its way once the resolver was used. -/
theorem Tended.balanced_useResolver (tended : Tended moving timeline) {batch : Nat}
    (held : batch ∈ timeline.resolvers) (outcome : Outcome) :
    Balanced timeline [outcome] [] [] (timeline.useResolver batch outcome) := by
  have known : batch ∈ timeline.unwatched.resolvers := held
  have removed := Orderly.removeResolver tended known
  have account := removed.account_deliver outcome
  have underway := removed.underway_deliver outcome
  have used : timeline.unwatched.useResolver batch outcome =
      ((timeline.unwatched.removeResolver batch).perform [.deliver batch outcome]).wake
        (.forward batch) := if_pos (hasResolver_iff.mpr known)
  rw [← used, ← unwatched_useResolver] at account underway
  refine ⟨account, ?_, underway.symm⟩
  rw [useResolver_eq]
  exact .refl _

theorem Poised.useResolver (poised : Poised timeline) (batch : Nat) (outcome : Outcome) :
    Poised (timeline.useResolver batch outcome) := by
  refine ⟨poised.tended.useResolver batch outcome, ?_⟩
  unfold Timeline.useResolver
  split
  · have delivered : ∀ task ∈ ((timeline.removeResolver batch).perform
        [.deliver batch outcome]).ready, task.delivery? = none := poised.plain
    exact plain_wake delivered rfl
  · exact poised.plain

theorem Calm.resolve (calm : Calm timeline) (batch : Nat) (outcome : Outcome) :
    Calm (timeline.resolve batch outcome).2 := by
  unfold Timeline.resolve
  split
  · exact (calm.tended.useResolver batch outcome).calm
  · exact calm

theorem Calm.resolveAll (calm : Calm timeline) (outcomes : List (Nat × Outcome)) :
    Calm (timeline.resolveAll outcomes).2 := by
  induction outcomes generalizing timeline with
  | nil => exact calm
  | cons given rest ih => exact ih (calm.resolve given.1 given.2)

theorem Calm.resolveAfter (calm : Calm timeline) (batch delayMs : Nat) (outcome : Outcome) :
    Calm (timeline.resolveAfter batch delayMs outcome).2 := by
  unfold Timeline.resolveAfter
  split
  · rename_i held
    have removed := Orderly.removeResolver calm.tended (hasResolver_iff.mp held)
    have taken : Tended [] ((timeline.removeResolver batch).setTimer delayMs
        (.deliver batch outcome)) := removed.appoint delayMs outcome
    exact Calm.pass ⟨taken, calm.idle⟩ 0
  · exact calm

/-! Workers and batches -/

theorem Poised.start (poised : Poised timeline) : Poised (WorkerHandle.start timeline).2 := by
  have started := (Orderly.start poised.tended).1
  change Orderly [] ((timeline.unwatched.perform [.start]).wake _) at started
  have performed : ∀ task ∈ (timeline.perform [.start]).ready, task.delivery? = none := poised.plain
  refine ⟨?_, plain_wake performed rfl⟩
  rw [Tended, WorkerHandle.start, unwatched_wake]
  exact started

/-- A new batch, whose resolver is in hand if it has no outcome yet. -/
theorem Poised.submit (poised : Poised timeline) {worker : Nat} {state : Worker}
    (found : timeline.ledger.worker? worker = some state) (delivered : Option Outcome) :
    Poised (if delivered.isNone then
      (timeline.submit delivered worker).addResolver timeline.ledger.next
      else timeline.submit delivered worker) := by
  have submitted := (Orderly.submit poised.tended found delivered).1
  change Orderly _ ((timeline.unwatched.perform _).wake _) at submitted
  have counted : ∀ task ∈ (timeline.perform
      [.count delivered, .attach timeline.ledger.next worker]).ready, task.delivery? = none :=
    poised.plain
  have plain : ∀ task ∈ (timeline.submit delivered worker).ready, task.delivery? = none :=
    plain_wake counted rfl
  have tended : Tended (if delivered.isNone then [timeline.ledger.next] else [])
      (timeline.submit delivered worker) := by
    rw [Tended, Timeline.submit, unwatched_wake]
    exact submitted
  cases delivered with
  | none => exact ⟨Orderly.addResolver tended, plain⟩
  | some outcome => exact ⟨tended, plain⟩

theorem unwatched_release (handle : WorkerHandle) (timeline : Timeline) :
    (handle.release timeline).unwatched = handle.release timeline.unwatched :=
  unwatched_wake _ _

theorem Tended.release (tended : Tended moving timeline) (handle : WorkerHandle) :
    Tended moving (handle.release timeline) := by
  rw [Tended, unwatched_release]
  exact (Orderly.release tended handle).1

theorem Poised.release (poised : Poised timeline) (handle : WorkerHandle) :
    Poised (handle.release timeline) := by
  have performed : ∀ task ∈ (timeline.perform [.release handle.worker]).ready,
      task.delivery? = none := poised.plain
  exact ⟨poised.tended.release handle, plain_wake performed rfl⟩

theorem turned_release (handle : WorkerHandle) (timeline : Timeline) :
    Turned timeline [] (handle.release timeline) := by
  have ran := ran_release handle timeline
  refine ⟨?_, ?_, ?_, ?_, ran.account, ran.underway⟩ <;> rw [WorkerHandle.release, wake_eq] <;> rfl

theorem Tended.leaving_release (tended : Tended moving timeline) {handle : WorkerHandle}
    (hired : handle.worker < timeline.ledger.workers.length) :
    Leaving handle.worker (handle.release timeline) := by
  have kept := (Orderly.release tended handle).2.staffed.hired
  rw [← unwatched_release] at kept
  exact ⟨Nat.lt_of_lt_of_le hired kept, holdsSender_release handle timeline,
    .inr (mem_wake.mpr (.inr rfl))⟩

/-- With a grace period the stop of a worker whose end was not awaited before is over at once: the
worker ends as soon as all that can run has run. -/
theorem Tended.shutdown (tended : Tended moving timeline) {handle : WorkerHandle}
    (awaitable : handle.awaitable = true) (hired : handle.worker < timeline.ledger.workers.length)
    {graceMs : Nat} (grace : 0 < graceMs) :
    (handle.shutdown graceMs timeline).2 = (handle.release timeline).runReady := by
  have ended := (tended.release handle).ended (tended.leaving_release hired)
  have within : handle.within graceMs (handle.release timeline) =
      (handle.release timeline).runReady := by
    rw [WorkerHandle.within, if_neg grace.ne']
    show handle.awaitEnd (_ + 1) _ _ = _
    rw [WorkerHandle.awaitEnd, if_pos ended]
  simp only [WorkerHandle.shutdown, awaitable, if_true, within, ended]

end Timeline
end CheckpointSink.Settlement
