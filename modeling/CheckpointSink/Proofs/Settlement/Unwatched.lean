import CheckpointSink.Proofs.Settlement.Callbacks
import CheckpointSink.Proofs.Settlement.Lasting
import CheckpointSink.Proofs.Settlement.Staff

/-!
Timelines on which waits in the background may follow one another without a pause. Such a wait can
set timer after timer for the same time, but it only reads the count: apart from the waits, the
timeline stays in order, and the outcomes that come are those that had to come.
-/

namespace CheckpointSink.Settlement

namespace Timeline

/-- The same timeline without its waits in the background. -/
def unwatched (timeline : Timeline) : Timeline := { timeline with waits := [] }

/-- A timeline in order, apart from its waits. -/
def Tended (moving : List Nat) (timeline : Timeline) : Prop := Orderly moving timeline.unwatched

/-- The outcomes of resolvers that are used later on. -/
def promised (timeline : Timeline) : List Outcome :=
  timeline.timers.filterMap fun timer => timer.task.outcome?

/-- A batch is counted as long as its resolver is held or is to be used later on, or its outcome is on its
way. -/
theorem Tended.pending_eq {timeline : Timeline} (tended : Tended [] timeline) : timeline.pending =
    (timeline.resolvers.length + timeline.promised.length + timeline.underway.length : Nat) := by
  obtain ⟨history, run⟩ := tended.booked.run
  have counted : timeline.pending = timeline.ledger.outstanding.length := run.accounted.pending_eq
  have outstanding : timeline.ledger.outstanding.length = _ :=
    Ledger.length_outstanding tended.resting.discarded
  have custody : timeline.ledger.undelivered.length =
      timeline.resolvers.length + (timeline.delayed.length + timeline.delivering.length) := by
    have length := tended.custody.length_eq
    simp only [List.nil_append, List.length_append, List.length_map] at length
    exact length
  have later : timeline.delayed.length = timeline.promised.length := by
    simp [delayed, promised, Timer.delivery?, List.length_filterMap_eq_countP, Task.isSome_outcome?]
  have soon : timeline.delivering.length = (timeline.ready.filterMap Task.outcome?).length := by
    simp [delivering, List.length_filterMap_eq_countP, Task.isSome_outcome?]
  rw [counted, underway, List.length_append]
  omega

/-- What stays as it was while tasks run, and the outcomes whose callbacks have run meanwhile. -/
structure Turned (before : Timeline) (ran : List Outcome) (after : Timeline) : Prop where
  nowMs : after.nowMs = before.nowMs
  resolvers : after.resolvers = before.resolvers
  delayed : after.delayed = before.delayed
  promised : after.promised = before.promised
  account : after.account = ran.foldl Account.settle before.account
  underway : before.underway.Perm (ran ++ after.underway)

theorem Turned.refl (timeline : Timeline) : Turned timeline [] timeline :=
  ⟨rfl, rfl, rfl, rfl, rfl, .refl _⟩

theorem Turned.trans {first second third : Timeline} {earlier later : List Outcome}
    (before : Turned first earlier second) (after : Turned second later third) :
    Turned first (earlier ++ later) third where
  nowMs := after.nowMs.trans before.nowMs
  resolvers := after.resolvers.trans before.resolvers
  delayed := after.delayed.trans before.delayed
  promised := after.promised.trans before.promised
  account := by rw [List.foldl_append, ← before.account, after.account]
  underway := by
    rw [List.append_assoc]
    exact before.underway.trans (after.underway.append_left earlier)

/-- Where no wait is looked at, no timer is set. -/
theorem turned_of_unwatched {before after : Timeline} {ran : List Outcome}
    (kept : Kept before.unwatched after.unwatched) (did : Ran before.unwatched ran after.unwatched) :
    Turned before ran after where
  nowMs := kept.nowMs
  resolvers := kept.resolvers
  delayed := kept.delayed
  promised := by
    have same : after.timers = before.timers := (did.timers rfl).2
    rw [promised, same, promised]
  account := did.account
  underway := did.underway

section

variable {timeline : Timeline} {moving : List Nat}

theorem unwatched_wake (timeline : Timeline) (task : Task) :
    (timeline.wake task).unwatched = timeline.unwatched.wake task := by
  unfold wake
  by_cases known : task ∈ timeline.ready <;> simp [unwatched, known]

theorem unwatched_wakeAll (timeline : Timeline) (tasks : List Task) :
    (timeline.wakeAll tasks).unwatched = timeline.unwatched.wakeAll tasks := by
  induction tasks generalizing timeline with
  | nil => rfl
  | cons task rest ih =>
    show ((timeline.wake task).wakeAll rest).unwatched = (timeline.unwatched.wake task).wakeAll rest
    rw [ih, unwatched_wake]

theorem unwatched_runTask (timeline : Timeline) {task : Task}
    (other : ∀ index, task ≠ .poll index) :
    (timeline.runTask task).unwatched = timeline.unwatched.runTask task := by
  cases task with
  | poll index => exact absurd rfl (other index)
  | _ => exact unwatched_wakeAll _ _

theorem Tended.enter (tended : Tended moving timeline) (event : Event) :
    Tended moving (timeline.enter event) :=
  Orderly.enter tended event

/-- A poll that is to come is no resolver on its way. -/
theorem Tended.setPoll (tended : Tended moving timeline) (delayMs index : Nat) :
    Tended moving (timeline.setTimer delayMs (.poll index)) where
  booked := tended.booked
  resting := tended.resting
  forwards := tended.forwards
  works := tended.works
  custody := by
    have same : (timeline.setTimer delayMs (.poll index)).delayed = timeline.delayed := by
      rw [delayed_setTimer]
      exact List.append_nil _
    show timeline.ledger.undelivered.Perm (moving ++ (timeline.resolvers ++
      ((timeline.setTimer delayMs (.poll index)).delayed.map Prod.fst ++ timeline.delivering)))
    rw [same]
    exact tended.custody
  waits := tended.waits

/-! Tasks -/

/-- A poll changes nothing but the reports, its wait and the timer of the next poll. -/
theorem Tended.pollWait (tended : Tended moving timeline) (index : Nat) :
    Tended moving (timeline.pollWait index) ∧ Turned timeline [] (timeline.pollWait index) := by
  have ran := ran_pollWait timeline index
  have effect := polled timeline index
  generalize timeline.pollWait index = later at ran effect
  cases effect with
  | absent => exact ⟨tended, .refl _⟩
  | decided event => exact ⟨tended.enter event, rfl, rfl, rfl, rfl, ran.account, ran.underway⟩
  | @again wait event =>
    refine ⟨(tended.enter event).setPoll _ index, rfl, rfl, ?_, ?_, ran.account, ran.underway⟩
    · rw [delayed_setTimer]
      exact List.append_nil _
    · show (timeline.timers ++ [_]).filterMap (fun timer : Timer => timer.task.outcome?) = _
      rw [List.filterMap_append]
      exact List.append_nil _

theorem Tended.runTask (tended : Tended moving timeline) {task : Task} {rest : List Task}
    (ready : timeline.ready = task :: rest) :
    Tended moving ({ timeline with ready := rest }.runTask task) ∧
      ∃ ran, Turned timeline ran ({ timeline with ready := rest }.runTask task) := by
  have known : timeline.unwatched.ready = task :: rest := ready
  by_cases polls : ∃ index, task = .poll index
  · obtain ⟨index, rfl⟩ := polls
    have popped : Tended moving { timeline with ready := rest } :=
      Orderly.pop tended known (by simp) (by simp)
    have left : Turned timeline [] { timeline with ready := rest } := by
      refine ⟨rfl, rfl, rfl, rfl, rfl, ?_⟩
      rw [underway, ready, List.filterMap_cons_none rfl]
      exact .refl _
    obtain ⟨after, turned⟩ := popped.pollWait index
    exact ⟨after, [], left.trans turned⟩
  · -- Only polls look at the waits, so any other task does the same without them.
    have same := unwatched_runTask { timeline with ready := rest } fun index this =>
      polls ⟨index, this⟩
    have after := Orderly.runTask tended known
    have kept := Kept.runTask tended known
    obtain ⟨ran, did⟩ := Orderly.ran_runTask tended known
    change Orderly moving ({ timeline with ready := rest }.unwatched.runTask task) at after
    change Kept _ ({ timeline with ready := rest }.unwatched.runTask task) at kept
    change Ran _ _ ({ timeline with ready := rest }.unwatched.runTask task) at did
    rw [← same] at after kept did
    exact ⟨after, ran, turned_of_unwatched kept did⟩

theorem Tended.runTasks (tended : Tended moving timeline) (turns : Nat) :
    Tended moving (timeline.runTasks turns) ∧
      ∃ ran, Turned timeline ran (timeline.runTasks turns) := by
  induction turns generalizing timeline with
  | zero => exact ⟨tended, [], .refl _⟩
  | succ turns ih =>
    unfold Timeline.runTasks
    cases ready : timeline.ready with
    | nil => exact ⟨tended, [], .refl _⟩
    | cons task rest =>
      obtain ⟨next, first, turned⟩ := tended.runTask ready
      obtain ⟨after, others, later⟩ := ih next
      exact ⟨after, first ++ others, turned.trans later⟩

theorem Tended.underway_of_idle (tended : Tended moving timeline) (idle : timeline.ready = []) :
    timeline.underway = [] := by
  have orderly : Orderly moving timeline.unwatched := tended
  exact orderly.underway_of_idle idle

/-- When no task can run any more, the callbacks of all outcomes that were on their way have run. -/
theorem Tended.runReady (tended : Tended moving timeline) :
    Tended moving timeline.runReady ∧
      ∃ ran, ran.Perm timeline.underway ∧ Turned timeline ran timeline.runReady := by
  obtain ⟨after, ran, turned⟩ := tended.runTasks (Task.totalWeight timeline.ready)
  have all := turned.underway
  rw [after.underway_of_idle timeline.ready_runReady, List.append_nil] at all
  exact ⟨after, ran, all.symm, turned⟩

theorem leaving_pollWait {worker : Nat} (leaving : Leaving worker timeline) (index : Nat) :
    Leaving worker (timeline.pollWait index) := by
  have effect := polled timeline index
  generalize timeline.pollWait index = later at effect
  cases effect with
  | absent => exact leaving
  | decided => exact ⟨leaving.hired, leaving.released, leaving.ends⟩
  | again => exact ⟨leaving.hired, leaving.released, leaving.ends⟩

theorem Tended.leaving_runTask (tended : Tended moving timeline) {worker : Nat}
    (leaving : Leaving worker timeline) {task : Task} {rest : List Task}
    (ready : timeline.ready = task :: rest) :
    Leaving worker ({ timeline with ready := rest }.runTask task) := by
  by_cases polls : ∃ index, task = .poll index
  · obtain ⟨index, rfl⟩ := polls
    have left : Leaving worker { timeline with ready := rest } := by
      refine ⟨leaving.hired, leaving.released, leaving.ends.imp_right fun woken => ?_⟩
      rw [ready] at woken
      exact List.mem_of_ne_of_mem (by simp) woken
    exact leaving_pollWait left index
  · have same := unwatched_runTask { timeline with ready := rest } fun index this =>
      polls ⟨index, this⟩
    have before : Leaving worker timeline.unwatched :=
      ⟨leaving.hired, leaving.released, leaving.ends⟩
    have after := before.runTask tended ready
    change Leaving worker ({ timeline with ready := rest }.unwatched.runTask task) at after
    rw [← same] at after
    exact ⟨after.hired, after.released, after.ends⟩

/-- A worker whose channel was given up has ended when no task can run any more. -/
theorem Tended.ended (tended : Tended moving timeline) {worker : Nat}
    (leaving : Leaving worker timeline) : timeline.runReady.ledger.hasEnded worker = true := by
  have runs (turns : Nat) {timeline : Timeline} (tended : Tended moving timeline)
      (leaving : Leaving worker timeline) : Leaving worker (timeline.runTasks turns) := by
    induction turns generalizing timeline with
    | zero => exact leaving
    | succ turns ih =>
      unfold Timeline.runTasks
      cases ready : timeline.ready with
      | nil => exact leaving
      | cons task rest => exact ih (tended.runTask ready).1 (tended.leaving_runTask leaving ready)
  obtain ended | woken := (runs (Task.totalWeight timeline.ready) tended leaving).ends
  · exact ended
  · have idle := timeline.ready_runReady
    rw [Timeline.runReady] at idle
    rw [idle] at woken
    cases woken

/-! Time -/

theorem unwatched_arrive (timeline : Timeline) (deadlineMs : Nat) :
    (timeline.arrive deadlineMs).unwatched = timeline.unwatched.arrive deadlineMs :=
  unwatched_wakeAll _ _

/-- A task that can already run is not entered again, so outcomes are only safe with tasks of which
there are no two for one batch. -/
theorem outcomes_wakeAll_nodup (timeline : Timeline) (tasks : List Task)
    (distinct : (timeline.delivering ++ tasks.filterMap Task.delivery?).Nodup) :
    (timeline.wakeAll tasks).ready.filterMap Task.outcome? =
      timeline.ready.filterMap Task.outcome? ++ tasks.filterMap Task.outcome? := by
  induction tasks generalizing timeline with
  | nil => exact (List.append_nil _).symm
  | cons task rest ih =>
    show ((timeline.wake task).wakeAll rest).ready.filterMap Task.outcome? = _
    cases brings : task.delivery? with
    | none =>
      rw [List.filterMap_cons_none brings, ← delivering_wake_plain timeline task brings] at distinct
      rw [ih _ distinct, outcomes_wake timeline task brings,
        List.filterMap_cons_none (Task.outcome?_of_plain brings)]
    | some batch =>
      rw [List.filterMap_cons_some brings] at distinct
      have fresh : batch ∉ timeline.delivering := fun known =>
        (List.nodup_append.mp distinct).2.2 batch known batch List.mem_cons_self rfl
      have unknown : task ∉ timeline.ready := fun known =>
        fresh (List.mem_filterMap.mpr ⟨task, known, brings⟩)
      have woken : timeline.wake task = { timeline with ready := timeline.ready ++ [task] } :=
        if_neg unknown
      rw [ih, woken, List.filterMap_append, List.append_assoc, ← List.filterMap_append]
      · rfl
      · rw [woken, delivering, List.filterMap_append, List.filterMap_cons_some brings,
          List.filterMap_nil, List.append_assoc]
        exact distinct

/-- From one timeline to another some outcomes were given, those of some delayed resolvers have become
due, and the callbacks of some have run. No outcome is lost, and none comes from nowhere. -/
structure Balanced (before : Timeline) (given due ran : List Outcome) (after : Timeline) : Prop where
  account : after.account = ran.foldl Account.settle before.account
  promised : before.promised.Perm (due ++ after.promised)
  underway : (given ++ (due ++ before.underway)).Perm (ran ++ after.underway)

theorem Balanced.trans {first second third : Timeline}
    {given due ran moreGiven moreDue moreRan : List Outcome}
    (earlier : Balanced first given due ran second)
    (later : Balanced second moreGiven moreDue moreRan third) :
    Balanced first (given ++ moreGiven) (due ++ moreDue) (ran ++ moreRan) third where
  account := by rw [List.foldl_append, ← earlier.account, later.account]
  promised := by
    rw [List.append_assoc]
    exact earlier.promised.trans (later.promised.append_left due)
  underway := by
    have before := earlier.underway
    have after := later.underway
    rw [List.perm_iff_count] at before after ⊢
    intro outcome
    have many := before outcome
    have more := after outcome
    simp only [List.count_append] at many more ⊢
    omega

theorem Turned.balanced {before after : Timeline} {ran : List Outcome}
    (turned : Turned before ran after) : Balanced before [] [] ran after :=
  ⟨turned.account, turned.promised ▸ .refl _, turned.underway⟩

/-- At a deadline the outcomes that are due are on their way. -/
theorem Orderly.balanced_arrive (orderly : Orderly [] timeline) (idle : timeline.ready = [])
    (deadlineMs : Nat) : ∃ due, Balanced timeline [] due [] (timeline.arrive deadlineMs) := by
  have shape := timeline.arrive_eq deadlineMs
  have woken := outcomes_wakeAll_nodup
    { timeline with
      timers := timeline.timers.filter fun timer => timer.deadlineMs ≠ deadlineMs
      nowMs := deadlineMs }
    ((timeline.timers.filter fun timer => timer.deadlineMs = deadlineMs).map Timer.task)
    (by
      rw [delivering, idle]
      exact orderly.nodup_due idle deadlineMs)
  change (timeline.arrive deadlineMs).ready.filterMap Task.outcome? = _ at woken
  have due : (timeline.arrive deadlineMs).underway =
      (timeline.timers.filter fun timer => timer.deadlineMs = deadlineMs).filterMap
        (fun timer => timer.task.outcome?) ++ timeline.underway := by
    rw [underway, woken, List.filterMap_map, underway, idle, shape]
    rfl
  have later : (timeline.arrive deadlineMs).promised =
      (timeline.timers.filter fun timer => timer.deadlineMs ≠ deadlineMs).filterMap
        fun timer => timer.task.outcome? := by
    rw [promised, shape]
  have halves := (List.filter_append_perm
    (fun timer : Timer => decide (timer.deadlineMs ≠ deadlineMs)) timeline.timers).filterMap
      fun timer => timer.task.outcome?
  simp only [ne_eq, decide_not, Bool.not_not, List.filterMap_append] at halves later
  refine ⟨(timeline.timers.filter fun timer => timer.deadlineMs = deadlineMs).filterMap
    fun timer => timer.task.outcome?, by rw [shape]; rfl, ?_, ?_⟩
  · rw [later]
    exact halves.symm.trans List.perm_append_comm
  · rw [due]

theorem Tended.fire (tended : Tended [] timeline) (idle : timeline.ready = []) (deadlineMs : Nat) :
    Tended [] (timeline.fire deadlineMs) ∧ (timeline.fire deadlineMs).resolvers = timeline.resolvers ∧
      ∃ due ran, Balanced timeline [] due ran (timeline.fire deadlineMs) := by
  obtain ⟨due, balanced⟩ := Orderly.balanced_arrive tended idle deadlineMs
  have orderly := Orderly.arrive tended idle deadlineMs
  have held : (timeline.arrive deadlineMs).resolvers = timeline.resolvers := by
    rw [timeline.arrive_eq deadlineMs]
  rw [← unwatched_arrive] at orderly balanced
  have arrived : Balanced timeline [] due [] (timeline.arrive deadlineMs) :=
    ⟨balanced.account, balanced.promised, balanced.underway⟩
  obtain ⟨after, ran, -, turned⟩ := Tended.runReady orderly
  exact ⟨after, turned.resolvers.trans held, _, _, arrived.trans turned.balanced⟩

theorem Tended.fireUntil (tended : Tended [] timeline) (idle : timeline.ready = [])
    (fuel untilMs : Nat) : Tended [] (timeline.fireUntil fuel untilMs) ∧
      (timeline.fireUntil fuel untilMs).ready = [] ∧
      (timeline.fireUntil fuel untilMs).nowMs = untilMs ∧
      (timeline.fireUntil fuel untilMs).resolvers = timeline.resolvers ∧
      ∃ due ran, Balanced timeline [] due ran (timeline.fireUntil fuel untilMs) := by
  have arrived {timeline : Timeline} (tended : Tended [] timeline) (idle : timeline.ready = []) :
      Tended [] { timeline with nowMs := untilMs } ∧ timeline.ready = [] ∧ untilMs = untilMs ∧
        timeline.resolvers = timeline.resolvers ∧
        ∃ due ran, Balanced timeline [] due ran { timeline with nowMs := untilMs } :=
    ⟨⟨tended.booked, tended.resting, tended.forwards, tended.works, tended.custody, tended.waits⟩,
      idle, rfl, rfl, [], [], rfl, .refl _, .refl _⟩
  induction fuel generalizing timeline with
  | zero => exact arrived tended idle
  | succ fuel ih =>
    unfold Timeline.fireUntil
    cases timeline.nextDeadline? untilMs with
    | none => exact arrived tended idle
    | some deadlineMs =>
      obtain ⟨next, held, due, ran, balanced⟩ := tended.fire idle deadlineMs
      obtain ⟨after, still, nowMs, left, moreDue, moreRan, later⟩ :=
        ih next (Timeline.ready_runReady _)
      exact ⟨after, still, nowMs, left.trans held, due ++ moreDue, ran ++ moreRan,
        balanced.trans later⟩

/-- Whatever time passes, the timeline is in order at its end. -/
theorem Tended.pass (tended : Tended [] timeline) (idle : timeline.ready = []) (delayMs : Nat) :
    Tended [] (timeline.pass delayMs) ∧ (timeline.pass delayMs).ready = [] ∧
      (timeline.pass delayMs).nowMs = timeline.nowMs + delayMs ∧
      (timeline.pass delayMs).resolvers = timeline.resolvers ∧
      ∃ due ran, Balanced timeline [] due ran (timeline.pass delayMs) :=
  tended.fireUntil idle _ _

end

end Timeline
end CheckpointSink.Settlement
