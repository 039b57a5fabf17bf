import CheckpointSink.Proofs.Polling
import CheckpointSink.Proofs.Settlement.Orderly

/-!
What the end of a wait says about the batches. A poll reads nothing but the count, while batches are
counted and settled around it; but the count is that of the batches whose callback has not run, so
what the poll concludes holds of the batches counted by then.
-/

namespace CheckpointSink.Settlement

/-- What the end of a wait says is so at the poll that ended it. -/
structure Truthful (result : WaitState) (timeoutMs : Nat) (history : History) : Prop where
  ended : result.outcome = .drained ∨ result.outcome = .timedOut
  /-- Every batch counted so far has its outcome, and its callback has run with it, once. -/
  drained : result.outcome = .drained → ∀ batch < history.counted,
    history.settled.count batch = 1 ∧
      ∃ outcome, (batch, outcome) ∈ history.delivered ∧ (batch, outcome) ∈ history.completed
  timedOut : result.outcome = .timedOut → history.unsettled ≠ [] ∧
    result.pending = history.unsettled.length ∧ timeoutMs ≤ result.elapsedMs

theorem settled_of_drained {history : History} {ledger : Ledger} (run : Run history ledger)
    (empty : ledger.pending ≤ 0) {batch : Nat} (counted : batch < history.counted) :
    history.settled.count batch = 1 ∧
      ∃ outcome, (batch, outcome) ∈ history.delivered ∧ (batch, outcome) ∈ history.completed := by
  have accounted := run.accounted
  have none_left : history.unsettled = [] := by
    have total := accounted.pending_eq_unsettled
    exact List.length_eq_zero_iff.mp (by omega)
  have settled : batch ∈ history.settled := by
    by_contra open_
    have left : batch ∈ history.unsettled := by
      simp [History.unsettled, counted, open_]
    rw [none_left] at left
    cases left
  obtain ⟨⟨id, outcome⟩, completed, rfl⟩ := List.mem_map.mp settled
  have once := List.count_pos_iff.mpr settled
  have most := accounted.settled_count_le id
  exact ⟨Nat.le_antisymm most once, outcome, run.placed.completed _ completed, completed⟩

/-- A poll that decides at any moment of a run is right about that moment. -/
theorem truthful_of_judge {history : History} {ledger : Ledger} (run : Run history ledger)
    {barrier : Barrier} {elapsedMs : Nat} {result : WaitState}
    (judged : barrier.judge elapsedMs ledger.pending = some result) :
    Truthful result barrier.timeoutMs history ∧ result.elapsedMs = elapsedMs := by
  simp only [Barrier.judge] at judged
  split at judged
  · rename_i empty
    cases judged
    exact ⟨⟨.inl rfl, fun _ _ => settled_of_drained run empty, by simp⟩, rfl⟩
  · rename_i some_left
    split at judged
    · rename_i late
      cases judged
      have total := run.accounted.pending_eq_unsettled
      refine ⟨⟨.inr rfl, by simp, fun _ => ⟨?_, total, late⟩⟩, rfl⟩
      intro none_left
      rw [none_left] at total
      simp at total
      omega
    · cases judged

/-! A wait in the foreground -/

/-- A ledger that others use while its count is polled. -/
structure Bustle where
  history : History
  ledger : Ledger
  nowMs : Nat
  /-- The steps that are taken from each poll to the next, by whatever task. -/
  coming : List (List Step)

namespace Bustle

def steps (bustle : Bustle) (taken : List Step) : History × Ledger :=
  taken.foldl History.take (bustle.history, bustle.ledger)

def count : PolledCount Bustle where
  read bustle := (bustle.ledger.pending, bustle)
  enter event bustle := { bustle with ledger := bustle.ledger.enter event }
  pass delayMs bustle :=
    let after := bustle.steps (bustle.coming.headD [])
    ⟨after.1, after.2, bustle.nowMs + delayMs, bustle.coming.tail⟩

/-- Whatever happens between the polls, the ledger is that of a run. -/
theorem reached_next {barrier : Barrier} {begunMs elapsedMs : Nat} {bustle : Bustle}
    (run : Run bustle.history bustle.ledger) (now : bustle.nowMs = begunMs + elapsedMs)
    (event : Event) :
    Run (count.pass barrier.stepMs (count.enter event bustle)).history
      (count.pass barrier.stepMs (count.enter event bustle)).ledger ∧
      (count.pass barrier.stepMs (count.enter event bustle)).nowMs =
        begunMs + (elapsedMs + barrier.stepMs) := by
  refine ⟨(run.report _).takeAll _, ?_⟩
  show bustle.nowMs + barrier.stepMs = _
  omega

end Bustle

/-! A wait on a timeline -/

namespace Timeline

/-- Some steps lead to the ledger of a timeline. -/
def HasRun (timeline : Timeline) : Prop := ∃ history, Run history timeline.ledger

namespace HasRun

variable {timeline : Timeline}

theorem enter (has : timeline.HasRun) (event : Event) : (timeline.enter event).HasRun := by
  obtain ⟨history, run⟩ := has
  exact ⟨history, run.report _⟩

theorem perform (has : timeline.HasRun) (steps : List Step) : (timeline.perform steps).HasRun := by
  obtain ⟨history, run⟩ := has
  show ∃ history, Run history (timeline.ledger.attempts steps)
  generalize timeline.ledger = ledger at run ⊢
  induction steps generalizing history ledger with
  | nil => exact ⟨history, run⟩
  | cons step rest ih =>
    rw [Ledger.attempts_cons, Ledger.attempt]
    cases taken : ledger.step? step with
    | none => exact ih history ledger run
    | some later => exact ih _ later (run.step taken)

theorem wakeAll (has : timeline.HasRun) (tasks : List Task) : (timeline.wakeAll tasks).HasRun := by
  rw [wakeAll_eq]
  exact has

theorem pollWait (has : timeline.HasRun) (index : Nat) : (timeline.pollWait index).HasRun := by
  have effect := polled timeline index
  generalize timeline.pollWait index = later at effect ⊢
  cases effect with
  | absent => exact has
  | decided event => exact has.enter event
  | again event => exact has.enter event

theorem runTask (has : timeline.HasRun) (task : Task) : (timeline.runTask task).HasRun := by
  cases task with
  | poll index => exact has.pollWait index
  | forward batch => exact (has.perform _).wakeAll _
  | work worker => exact (has.perform _).wakeAll _
  | deliver batch outcome => exact (has.perform _).wakeAll _

theorem runTasks (has : timeline.HasRun) (turns : Nat) : (timeline.runTasks turns).HasRun := by
  induction turns generalizing timeline with
  | zero => exact has
  | succ turns ih =>
    unfold Timeline.runTasks
    split
    · exact has
    · rename_i task rest _
      have popped : HasRun { timeline with ready := rest } := has
      exact ih (popped.runTask task)

theorem fireUntil (has : timeline.HasRun) (fuel untilMs : Nat) :
    (timeline.fireUntil fuel untilMs).HasRun ∧
      (timeline.fireUntil fuel untilMs).nowMs = untilMs := by
  induction fuel generalizing timeline with
  | zero => exact ⟨has, rfl⟩
  | succ fuel ih =>
    unfold Timeline.fireUntil
    split
    · exact ⟨has, rfl⟩
    · rename_i deadlineMs _
      have arrived : HasRun { timeline with
          timers := timeline.timers.filter fun timer => timer.deadlineMs ≠ deadlineMs
          nowMs := deadlineMs } := has
      exact ih ((arrived.wakeAll _).runTasks _)

end HasRun

/-- A wait on a timeline is right about the ledger that it ends with. -/
theorem wait_truthful {timeline later : Timeline} {barrier : Barrier} {result : WaitState}
    (has : timeline.HasRun) (ended : timeline.wait barrier = (some result, later)) :
    ∃ history, Run history later.ledger ∧ Truthful result barrier.timeoutMs history ∧
      timeline.nowMs + result.elapsedMs = later.nowMs := by
  obtain ⟨elapsedMs, last, ⟨⟨history, run⟩, now⟩, judged, rfl⟩ := drain_ended ended
    (fun elapsedMs state => HasRun state ∧ state.nowMs = timeline.nowMs + elapsedMs) ⟨has, rfl⟩
    fun elapsedMs state reached => by
      obtain ⟨after, since⟩ := (reached.1.enter (barrier.report elapsedMs state.pending)).fireUntil
        (barrier.stepMs + 1) (state.nowMs + barrier.stepMs)
      exact ⟨after, since.trans (by rw [reached.2, Nat.add_assoc])⟩
  obtain ⟨truthful, elapsed⟩ := truthful_of_judge run judged
  exact ⟨history, run.report _, truthful, by rw [elapsed]; exact now.symm⟩

end Timeline

/-! Waits in the background -/

inductive Move where
  | step (given : Step)
  | elapse (milliseconds : Nat)
  | spawn (barrier : Barrier)
  | poll (index : Nat)

/-- A history with a timeline whose waits are polled at any time. -/
def Move.make (state : History × Timeline) : Move → History × Timeline
  | step given =>
    let after := History.take (state.1, state.2.ledger) given
    (after.1, { state.2 with ledger := after.2 })
  | elapse milliseconds => (state.1, { state.2 with nowMs := state.2.nowMs + milliseconds })
  | spawn barrier =>
    (state.1, { state.2 with
      waits := state.2.waits ++ [⟨barrier, state.2.nowMs, none, false⟩] })
  | poll index => (state.1, state.2.pollWait index)

def moved (moves : List Move) : History × Timeline :=
  moves.foldl Move.make (.empty, .empty)

theorem moved_snoc (moves : List Move) (move : Move) :
    moved (moves ++ [move]) = move.make (moved moves) := by
  rw [moved, List.foldl_append]
  rfl

theorem run_moved (moves : List Move) : Run (moved moves).1 (moved moves).2.ledger := by
  induction moves using List.reverseRecOn with
  | nil => exact .start
  | append_singleton moves move ih =>
    rw [moved_snoc]
    cases move with
    | step given => exact ih.take given
    | elapse milliseconds => exact ih
    | spawn barrier => exact ih
    | poll index =>
      have effect := Timeline.polled (moved moves).2 index
      show Run (moved moves).1 ((moved moves).2.pollWait index).ledger
      generalize (moved moves).2.pollWait index = later at effect ⊢
      cases effect with
      | absent => exact ih
      | decided => exact ih.report _
      | again => exact ih.report _

theorem nowMs_move (state : History × Timeline) (move : Move) :
    state.2.nowMs ≤ (move.make state).2.nowMs := by
  cases move with
  | step given => exact Nat.le_refl _
  | elapse milliseconds => exact Nat.le_add_right _ _
  | spawn barrier => exact Nat.le_refl _
  | poll index =>
    have effect := Timeline.polled state.2 index
    show state.2.nowMs ≤ (state.2.pollWait index).nowMs
    generalize state.2.pollWait index = later at effect ⊢
    cases effect <;> exact Nat.le_refl _

theorem nowMs_moved (before since : List Move) :
    (moved before).2.nowMs ≤ (moved (before ++ since)).2.nowMs := by
  induction since using List.reverseRecOn with
  | nil => simp
  | append_singleton since move ih =>
    rw [← List.append_assoc, moved_snoc]
    exact ih.trans (nowMs_move _ _)

/-- A wait has a beginning, and its result is what was so at a poll after that. -/
structure Wait.Grounded (moves : List Move) (index : Nat) (wait : Wait) : Prop where
  begun : ∃ before since, moves = before ++ .spawn wait.barrier :: since ∧
    (moved before).2.waits.length = index ∧ wait.begunMs = (moved before).2.nowMs
  decided : ∀ result, wait.result = some result → ∃ before since rest,
    moves = before ++ .spawn wait.barrier :: since ++ .poll index :: rest ∧
      (moved before).2.waits.length = index ∧
      Truthful result wait.barrier.timeoutMs (moved (before ++ .spawn wait.barrier :: since)).1 ∧
      (moved before).2.nowMs + result.elapsedMs =
        (moved (before ++ .spawn wait.barrier :: since)).2.nowMs

theorem Wait.Grounded.snoc {moves : List Move} {index : Nat} {wait : Wait}
    (grounded : wait.Grounded moves index) (move : Move) : wait.Grounded (moves ++ [move]) index where
  begun := by
    obtain ⟨before, since, rfl, place, begun⟩ := grounded.begun
    exact ⟨before, since ++ [move], by simp, place, begun⟩
  decided := by
    intro result ended
    obtain ⟨before, since, rest, rfl, place, truthful, elapsed⟩ := grounded.decided result ended
    exact ⟨before, since, rest ++ [move], by simp, place, truthful, elapsed⟩

/-- A poll that ends a wait grounds it. -/
theorem Wait.Grounded.poll {moves : List Move} {index : Nat} {wait : Wait}
    (grounded : wait.Grounded moves index) {result : WaitState}
    (judged : wait.barrier.judge ((moved moves).2.nowMs - wait.begunMs) (moved moves).2.pending =
      some result) :
    Wait.Grounded (moves ++ [.poll index]) index { wait with result := some result } where
  begun := (grounded.snoc (.poll index)).begun
  decided := by
    intro other same
    cases same
    obtain ⟨before, since, rfl, place, begun⟩ := grounded.begun
    obtain ⟨truthful, elapsed⟩ := truthful_of_judge (run_moved _) judged
    have later := nowMs_moved before (.spawn wait.barrier :: since)
    refine ⟨before, since, [], rfl, place, truthful, ?_⟩
    rw [elapsed, begun]
    exact Nat.add_sub_cancel' later

theorem grounded (moves : List Move) (index : Nat) (wait : Wait)
    (found : (moved moves).2.waits[index]? = some wait) : wait.Grounded moves index := by
  induction moves using List.reverseRecOn generalizing index wait with
  | nil => cases found
  | append_singleton moves move ih =>
    rw [moved_snoc] at found
    cases move with
    | step given => exact (ih index wait found).snoc _
    | elapse milliseconds => exact (ih index wait found).snoc _
    | spawn barrier =>
      change ((moved moves).2.waits ++ [_])[index]? = some wait at found
      by_cases old : index < (moved moves).2.waits.length
      · rw [List.getElem?_append_left old] at found
        exact (ih index wait found).snoc _
      · have bound := (List.getElem?_eq_some_iff.mp found).1
        rw [List.length_append, List.length_singleton] at bound
        have last : index = (moved moves).2.waits.length := by omega
        subst last
        simp at found
        subst found
        exact ⟨⟨moves, [], rfl, rfl, rfl⟩, by simp⟩
    | poll other =>
      have effect := Timeline.polled (moved moves).2 other
      change ((moved moves).2.pollWait other).waits[index]? = some wait at found
      generalize (moved moves).2.pollWait other = later at effect found
      cases effect with
      | absent => exact (ih index wait found).snoc _
      | again => exact (ih index wait found).snoc _
      | @decided known result event there judged =>
        by_cases same : other = index
        · subst same
          have bound := (List.getElem?_eq_some_iff.mp there).1
          rw [List.getElem?_set_self bound] at found
          cases found
          exact (ih other known there).poll judged
        · rw [List.getElem?_set_ne same] at found
          exact (ih index wait found).snoc _

/-- Whatever is counted, delivered and settled between the polls of a wait, in the foreground or in
the background: a wait that ends drained ends when the callback of every batch counted so far has
run once, and a wait that times out ends no earlier than it may, with the number of batches counted
whose callback has not run. -/
theorem checkpoint_sound :
    (∀ (bustle final : Bustle) (barrier : Barrier) (polls : Nat) (result : WaitState),
      Run bustle.history bustle.ledger →
      drain Bustle.count barrier polls 0 bustle = (some result, final) →
        Run final.history final.ledger ∧ Truthful result barrier.timeoutMs final.history ∧
          bustle.nowMs + result.elapsedMs = final.nowMs) ∧
      (∀ (timeline later : Timeline) (barrier : Barrier) (result : WaitState),
        timeline.HasRun → timeline.wait barrier = (some result, later) →
          ∃ history, Run history later.ledger ∧ Truthful result barrier.timeoutMs history ∧
            timeline.nowMs + result.elapsedMs = later.nowMs) ∧
      ∀ (moves : List Move) (index : Nat) (wait : Wait),
        (moved moves).2.waits[index]? = some wait → wait.Grounded moves index := by
  refine ⟨?_, fun timeline later barrier result => Timeline.wait_truthful, grounded⟩
  intro bustle final barrier polls result run ended
  obtain ⟨elapsedMs, last, ⟨lastRun, now⟩, judged, rfl⟩ := drain_ended ended
    (fun elapsedMs state => Run state.history state.ledger ∧ state.nowMs = bustle.nowMs + elapsedMs)
    ⟨run, rfl⟩ fun elapsedMs state reached => Bustle.reached_next reached.1 reached.2 _
  obtain ⟨truthful, elapsed⟩ := truthful_of_judge lastRun judged
  exact ⟨lastRun.report _, truthful, by rw [elapsed]; exact now.symm⟩

/-- While one batch is waited for another is counted, and both settle after some polls. -/
def lateBustle : Bustle where
  history := (History.after [.start, .count none, .attach 0 0]).1
  ledger := (History.after [.start, .count none, .attach 0 0]).2
  nowMs := 0
  coming := [[.count none, .attach 1 0, .deliver 0 (.failed .dropped), .receive 0],
    [.upgrade 0, .send 0, .deliver 1 (.failed .dropped), .receive 1, .take 0],
    [.upgrade 1, .send 1, .take 0]]

theorem checkpoint_sound_late :
    ∃ final, drain Bustle.count ⟨1000, 100⟩ 12 0 lateBustle = (some ⟨.drained, 300, 0⟩, final) ∧
      final.history.counted = 2 ∧ final.history.settled.count 1 = 1 := by
  have run : Run lateBustle.history lateBustle.ledger := Run.start.takeAll _
  have ended : drain Bustle.count ⟨1000, 100⟩ 12 0 lateBustle =
      (some ⟨.drained, 300, 0⟩, (drain Bustle.count ⟨1000, 100⟩ 12 0 lateBustle).2) := rfl
  obtain ⟨-, truthful, -⟩ := checkpoint_sound.1 lateBustle _ ⟨1000, 100⟩ 12 _ run ended
  exact ⟨_, ended, rfl, (truthful.drained rfl 1 (by decide)).1⟩

end CheckpointSink.Settlement
