import CheckpointSink.Proofs.Settlement.Tasks

/-!
Timelines between two tasks. Whatever is left to be done for a batch is left to a task that can run,
to a timer or to a resolver that can still be used, and no task loses any of it.
-/

namespace CheckpointSink.Settlement

namespace Task

/-- The batch to which a task brings its outcome. -/
def delivery? : Task → Option Nat
  | deliver batch _ => some batch
  | _ => none

theorem totalWeight_append (first second : List Task) :
    totalWeight (first ++ second) = totalWeight first + totalWeight second := by
  induction first with
  | nil => simp [totalWeight]
  | cons task rest ih => simp only [List.cons_append, totalWeight, ih, Nat.add_assoc]

theorem wakes_plain {before after : Ledger} {task woken : Task}
    (member : woken ∈ task.wakes before after) : woken.delivery? = none := by
  cases task with
  | forward batch =>
    simp only [wakes] at member
    split at member
    · split at member
      · cases member
      · rw [List.mem_singleton.mp member]
        rfl
    · cases member
  | deliver batch outcome =>
    simp only [wakes] at member
    split at member
    · rw [List.mem_singleton.mp member]
      rfl
    · cases member
  | work => cases member
  | poll => cases member

theorem totalWeight_wakes (before after : Ledger) (task : Task) :
    totalWeight (task.wakes before after) < task.weight := by
  cases task with
  | forward batch =>
    simp only [wakes, weight]
    split
    · split <;> simp [totalWeight, weight]
    · simp [totalWeight]
  | deliver batch outcome =>
    simp only [wakes, weight]
    split <;> simp [totalWeight, weight]
  | work => exact Nat.one_pos
  | poll => exact Nat.one_pos

end Task

def Timer.delivery? (timer : Timer) : Option (Nat × Nat) :=
  timer.task.delivery?.map fun batch => (batch, timer.deadlineMs)

namespace Timeline

def delivering (timeline : Timeline) : List Nat :=
  timeline.ready.filterMap Task.delivery?

/-- The batches whose resolvers are used later on, and when. -/
def delayed (timeline : Timeline) : List (Nat × Nat) :=
  timeline.timers.filterMap Timer.delivery?

/-- A timeline between two tasks. The resolvers of some batches may just be going from one place to
another. -/
structure Orderly (moving : List Nat) (timeline : Timeline) : Prop where
  booked : timeline.ledger.Booked
  resting : timeline.ledger.Resting
  forwards : ∀ batch ∈ timeline.ledger.batches, batch.delivered ≠ none →
    .forward batch.id ∈ timeline.ready
  works : ∀ worker, timeline.ledger.queue worker ≠ [] → .work worker ∈ timeline.ready
  custody : timeline.ledger.undelivered.Perm
    (moving ++ (timeline.resolvers ++ (timeline.delayed.map Prod.fst ++ timeline.delivering)))
  waits : ∀ wait ∈ timeline.waits, 0 < wait.barrier.intervalMs

/-- What stays as it was while tasks run. -/
structure Kept (before after : Timeline) : Prop where
  nowMs : after.nowMs = before.nowMs
  resolvers : after.resolvers = before.resolvers
  delayed : after.delayed = before.delayed
  timers : ∀ timer ∈ after.timers, timer ∈ before.timers ∨ before.nowMs < timer.deadlineMs
  next : after.ledger.next = before.ledger.next
  staffed : before.ledger.Staffed after.ledger

theorem Kept.refl (timeline : Timeline) : Kept timeline timeline :=
  ⟨rfl, rfl, rfl, fun _ member => .inl member, rfl, .of_workers rfl⟩

theorem Kept.trans {first second third : Timeline} (earlier : Kept first second)
    (later : Kept second third) : Kept first third where
  nowMs := later.nowMs.trans earlier.nowMs
  resolvers := later.resolvers.trans earlier.resolvers
  delayed := later.delayed.trans earlier.delayed
  timers := by
    intro timer member
    rcases later.timers timer member with old | new
    · exact earlier.timers timer old
    · exact .inr (earlier.nowMs ▸ new)
  next := later.next.trans earlier.next
  staffed := earlier.staffed.trans later.staffed

/-- No timer is set for a time that is over. -/
theorem Kept.ahead {before after : Timeline} (kept : Kept before after)
    (ahead : ∀ timer ∈ before.timers, before.nowMs < timer.deadlineMs) :
    ∀ timer ∈ after.timers, after.nowMs < timer.deadlineMs := by
  intro timer member
  rw [kept.nowMs]
  rcases kept.timers timer member with old | new
  · exact ahead timer old
  · exact new

theorem Kept.enter (timeline : Timeline) (event : Event) : Kept timeline (timeline.enter event) :=
  ⟨rfl, rfl, rfl, fun _ member => .inl member, rfl, .of_workers rfl⟩

theorem Kept.perform (timeline : Timeline) {steps : List Step}
    (next : (timeline.ledger.attempts steps).next = timeline.ledger.next) :
    Kept timeline (timeline.perform steps) :=
  ⟨rfl, rfl, rfl, fun _ member => .inl member, next, .attempts _ _⟩

/-! Waking -/

theorem wake_eq (timeline : Timeline) (task : Task) :
    timeline.wake task = { timeline with ready := (timeline.wake task).ready } := by
  by_cases known : task ∈ timeline.ready <;> simp [wake, known]

theorem mem_wake {timeline : Timeline} {task other : Task} :
    other ∈ (timeline.wake task).ready ↔ other ∈ timeline.ready ∨ other = task := by
  by_cases known : task ∈ timeline.ready
  · rw [wake, if_pos known]
    exact ⟨.inl, fun member => member.elim id (fun same => same ▸ known)⟩
  · simp [wake, known]

theorem delivering_wake {timeline : Timeline} {task : Task}
    (fresh : ∀ batch, task.delivery? = some batch → batch ∉ timeline.delivering) :
    (timeline.wake task).delivering = timeline.delivering ++ task.delivery?.toList := by
  by_cases known : task ∈ timeline.ready
  · rw [wake, if_pos known]
    cases brings : task.delivery? with
    | none => simp
    | some batch => exact absurd (List.mem_filterMap.mpr ⟨task, known, brings⟩) (fresh batch brings)
  · cases brings : task.delivery? <;> simp [wake, known, delivering, brings]

theorem delivering_wake_plain (timeline : Timeline) (task : Task)
    (plain : task.delivery? = none) : (timeline.wake task).delivering = timeline.delivering := by
  rw [delivering_wake (by simp [plain]), plain, Option.toList_none, List.append_nil]

theorem totalWeight_wake (timeline : Timeline) (task : Task) :
    Task.totalWeight (timeline.wake task).ready ≤
      Task.totalWeight timeline.ready + task.weight := by
  by_cases known : task ∈ timeline.ready
  · rw [wake, if_pos known]
    exact Nat.le_add_right _ _
  · simp [wake, known, Task.totalWeight_append, Task.totalWeight]

theorem wakeAll_eq (timeline : Timeline) (tasks : List Task) :
    timeline.wakeAll tasks = { timeline with ready := (timeline.wakeAll tasks).ready } := by
  induction tasks generalizing timeline with
  | nil => rfl
  | cons task rest ih =>
    show (timeline.wake task).wakeAll rest =
      { timeline with ready := ((timeline.wake task).wakeAll rest).ready }
    rw [ih, wake_eq]

theorem Kept.wakeAll (timeline : Timeline) (tasks : List Task) :
    Kept timeline (timeline.wakeAll tasks) := by
  rw [wakeAll_eq]
  exact ⟨rfl, rfl, rfl, fun _ member => .inl member, rfl, .of_workers rfl⟩

theorem mem_wakeAll {timeline : Timeline} {tasks : List Task} {other : Task} :
    other ∈ (timeline.wakeAll tasks).ready ↔ other ∈ timeline.ready ∨ other ∈ tasks := by
  induction tasks generalizing timeline with
  | nil => simp [wakeAll]
  | cons task rest ih =>
    show other ∈ ((timeline.wake task).wakeAll rest).ready ↔ _
    rw [ih, mem_wake, List.mem_cons, or_assoc]

theorem delivering_wakeAll (timeline : Timeline) (tasks : List Task)
    (distinct : (timeline.delivering ++ tasks.filterMap Task.delivery?).Nodup) :
    (timeline.wakeAll tasks).delivering =
      timeline.delivering ++ tasks.filterMap Task.delivery? := by
  induction tasks generalizing timeline with
  | nil => simp [wakeAll]
  | cons task rest ih =>
    have split : (task :: rest).filterMap Task.delivery? =
        task.delivery?.toList ++ rest.filterMap Task.delivery? := by
      cases brings : task.delivery? <;> simp [brings]
    rw [split, ← List.append_assoc] at distinct ⊢
    have woken : (timeline.wake task).delivering =
        timeline.delivering ++ task.delivery?.toList := by
      apply delivering_wake
      intro batch brings member
      rw [brings] at distinct
      exact (List.nodup_append.mp (List.nodup_append.mp distinct).1).2.2 batch member batch
        (by simp) rfl
    rw [← woken] at distinct ⊢
    exact ih (timeline.wake task) distinct

theorem totalWeight_wakeAll (timeline : Timeline) (tasks : List Task) :
    Task.totalWeight (timeline.wakeAll tasks).ready ≤
      Task.totalWeight timeline.ready + Task.totalWeight tasks := by
  induction tasks generalizing timeline with
  | nil => exact Nat.le_refl _
  | cons task rest ih =>
    have first := totalWeight_wake timeline task
    have others := ih (timeline.wake task)
    show Task.totalWeight ((timeline.wake task).wakeAll rest).ready ≤ _
    simp only [Task.totalWeight]
    omega

theorem delivering_wakeAll_plain (timeline : Timeline) {tasks : List Task}
    (plain : ∀ task ∈ tasks, task.delivery? = none) :
    (timeline.wakeAll tasks).delivering = timeline.delivering := by
  induction tasks generalizing timeline with
  | nil => rfl
  | cons task rest ih =>
    have first := plain task List.mem_cons_self
    show ((timeline.wake task).wakeAll rest).delivering = _
    rw [ih (timeline.wake task) fun other member => plain other (List.mem_cons_of_mem _ member),
      delivering_wake_plain timeline task first]

/-! One task -/

section

variable {timeline : Timeline} {moving : List Nat}

theorem Orderly.distinct (orderly : Orderly moving timeline) : timeline.ledger.undelivered.Nodup :=
  orderly.booked.distinct.sublist (List.filter_sublist.map Batch.id)

theorem Orderly.enter (orderly : Orderly moving timeline) (event : Event) :
    Orderly moving (timeline.enter event) where
  booked := orderly.booked.enter event
  resting := orderly.resting.reported _ _
  forwards := orderly.forwards
  works := orderly.works
  custody := orderly.custody
  waits := orderly.waits

theorem Orderly.wake (orderly : Orderly moving timeline) (task : Task)
    (plain : task.delivery? = none) : Orderly moving (timeline.wake task) := by
  have same := delivering_wake_plain timeline task plain
  rw [wake_eq]
  refine ⟨orderly.booked, orderly.resting, ?_, ?_, ?_, orderly.waits⟩
  · intro batch member given
    exact mem_wake.mpr (.inl (orderly.forwards batch member given))
  · intro worker busy
    exact mem_wake.mpr (.inl (orderly.works worker busy))
  · show timeline.ledger.undelivered.Perm (moving ++ (timeline.resolvers ++
      (timeline.delayed.map Prod.fst ++ (timeline.wake task).delivering)))
    rw [same]
    exact orderly.custody

/-- A task that has done its part leaves everything in order, whatever it wakes. -/
theorem Orderly.woken (orderly : Orderly moving timeline) {task : Task} {rest tasks : List Task}
    {later : Ledger} (ready : timeline.ready = task :: rest) (plain : task.delivery? = none)
    (quiet : ∀ woken ∈ tasks, woken.delivery? = none) (booked : later.Booked)
    (resting : later.Resting) (undelivered : later.undelivered = timeline.ledger.undelivered)
    (forwards : ∀ batch ∈ later.batches, batch.delivered ≠ none →
      batch ∈ timeline.ledger.batches ∧ Task.forward batch.id ≠ task)
    (works : ∀ worker, later.queue worker ≠ [] →
      timeline.ledger.queue worker ≠ [] ∧ Task.work worker ≠ task ∨ Task.work worker ∈ tasks) :
    Orderly moving ({ timeline with ready := rest, ledger := later }.wakeAll tasks) := by
  have same := delivering_wakeAll_plain { timeline with ready := rest, ledger := later } quiet
  have popped : rest.filterMap Task.delivery? = timeline.delivering := by
    rw [delivering, ready, List.filterMap_cons_none plain]
  rw [wakeAll_eq]
  refine ⟨booked, resting, ?_, ?_, ?_, orderly.waits⟩
  · intro batch member given
    obtain ⟨known, different⟩ := forwards batch member given
    have old := orderly.forwards batch known given
    rw [ready] at old
    exact mem_wakeAll.mpr (.inl (List.mem_of_ne_of_mem different old))
  · intro worker busy
    rcases works worker busy with ⟨before, different⟩ | new
    · have old := orderly.works worker before
      rw [ready] at old
      exact mem_wakeAll.mpr (.inl (List.mem_of_ne_of_mem different old))
    · exact mem_wakeAll.mpr (.inr new)
  · show later.undelivered.Perm (moving ++ (timeline.resolvers ++ (timeline.delayed.map Prod.fst ++
      ({ timeline with ready := rest, ledger := later }.wakeAll tasks).delivering)))
    rw [same, undelivered]
    show List.Perm _ (moving ++ (timeline.resolvers ++ (timeline.delayed.map Prod.fst ++
      rest.filterMap Task.delivery?)))
    rw [popped]
    exact orderly.custody

theorem Orderly.forward (orderly : Orderly moving timeline) {id : Nat} {rest : List Task}
    (ready : timeline.ready = .forward id :: rest) :
    Orderly moving ({ timeline with ready := rest }.runTask (.forward id)) := by
  have effect := Ledger.forwarded orderly.resting orderly.booked.distinct id
  refine orderly.woken ready rfl (fun _ => Task.wakes_plain) (orderly.booked.attempts _)
    (effect.resting orderly.resting) (effect.undelivered orderly.booked.distinct) ?_ ?_
  · intro batch member given
    obtain ⟨known, different⟩ := effect.batches member
    exact ⟨known, fun same => different given (Task.forward.inj same)⟩
  · intro worker busy
    rcases effect.queue busy with before | ⟨batch, member, rfl, stage⟩
    · exact .inl ⟨before, by simp⟩
    · have found := Ledger.batch?_of_mem orderly.booked.distinct member
      have filled : ((timeline.ledger.attempts
          ((Task.forward batch.id).steps timeline.ledger)).queue worker).isEmpty = false := by
        simpa using busy
      refine .inr ?_
      simp [Task.wakes, found, stage, perform, filled]

theorem Orderly.work (orderly : Orderly moving timeline) {worker : Nat} {rest : List Task}
    (ready : timeline.ready = .work worker :: rest) :
    Orderly moving ({ timeline with ready := rest }.runTask (.work worker)) := by
  obtain ⟨history, run⟩ := orderly.booked.run
  have effect := Ledger.worked orderly.resting run worker
  refine orderly.woken ready rfl (fun _ => Task.wakes_plain) (orderly.booked.attempts _)
    (effect.resting orderly.resting) ?_ ?_ ?_
  · simp only [Ledger.undelivered, effect.batches]
  · intro batch member _
    rw [effect.batches] at member
    exact ⟨member, by simp⟩
  · intro other busy
    obtain ⟨different, before⟩ := effect.queue busy
    exact .inl ⟨before, fun same => different (Task.work.inj same)⟩

/-- A resolver on its way to be used belongs to a batch without an outcome. -/
theorem Orderly.undelivered {batch : Nat} (orderly : Orderly (batch :: moving) timeline) :
    batch ∈ timeline.ledger.undelivered :=
  orderly.custody.mem_iff.mpr List.mem_cons_self

theorem Orderly.delivered {batch : Nat} (orderly : Orderly (batch :: moving) timeline)
    (outcome : Outcome) : timeline.ledger.attempts [.deliver batch outcome] =
      timeline.ledger.setDelivered batch outcome :=
  Ledger.attempts_deliver orderly.booked.distinct orderly.undelivered outcome

theorem Kept.deliver {batch : Nat} (orderly : Orderly (batch :: moving) timeline)
    (outcome : Outcome) : Kept timeline (timeline.perform [.deliver batch outcome]) := by
  apply Kept.perform
  rw [orderly.delivered]
  rfl

theorem Orderly.wakes_deliver {batch : Nat} (orderly : Orderly (batch :: moving) timeline)
    (outcome : Outcome) : (Task.deliver batch outcome).wakes timeline.ledger
      (timeline.ledger.attempts [.deliver batch outcome]) = [.forward batch] := by
  obtain ⟨known, found, rfl, _⟩ := Ledger.undelivered_subset orderly.undelivered
  obtain ⟨worker, waiting⟩ := orderly.resting.waiting known found
  have given : (timeline.ledger.setDelivered known.id outcome).batch? known.id =
      some { known with delivered := some outcome } := by
    have distinct := orderly.booked.distinct
    rw [← Ledger.ids_setDelivered timeline.ledger known.id outcome] at distinct
    have changed : { known with delivered := some outcome } ∈
        (timeline.ledger.setDelivered known.id outcome).batches :=
      List.mem_map.mpr ⟨known, found, by simp⟩
    exact Ledger.batch?_of_mem distinct changed
  simp [Task.wakes, orderly.delivered, given, waiting]

/-- An outcome reaches its batch, and its forwarding task can run. -/
theorem Orderly.deliver {batch : Nat} (orderly : Orderly (batch :: moving) timeline)
    (outcome : Outcome) :
    Orderly moving ((timeline.perform [.deliver batch outcome]).wake (.forward batch)) := by
  have alone := (orderly.custody.nodup_iff.mp orderly.distinct)
  rw [List.cons_append, List.nodup_cons] at alone
  have delivered := orderly.delivered outcome
  have booked := orderly.booked.attempts [.deliver batch outcome]
  have same := delivering_wake_plain (timeline.perform [.deliver batch outcome]) (.forward batch) rfl
  rw [wake_eq]
  refine ⟨booked, ?_, ?_, ?_, ?_, orderly.waits⟩
  · simpa only [perform, delivered] using orderly.resting.setDelivered batch outcome
  · intro other member given
    simp only [perform, delivered] at member
    rw [mem_wake]
    rcases Ledger.batches_setDelivered member with this | old
    · exact .inr (by rw [this])
    · exact .inl (orderly.forwards other old given)
  · intro worker busy
    rw [mem_wake]
    simp only [perform, delivered] at busy
    exact .inl (orderly.works worker busy)
  · show (timeline.ledger.attempts [.deliver batch outcome]).undelivered.Perm
      (moving ++ (timeline.resolvers ++ (timeline.delayed.map Prod.fst ++
        ((timeline.perform [.deliver batch outcome]).wake (.forward batch)).delivering)))
    rw [same, delivered, Ledger.undelivered_setDelivered]
    have others : ∀ other ∈ moving ++ (timeline.resolvers ++
        (timeline.delayed.map Prod.fst ++ timeline.delivering)), decide (other ≠ batch) = true := by
      intro other member
      simpa using fun same : other = batch => alone.1 (same ▸ member)
    have kept := orderly.custody.filter fun other => decide (other ≠ batch)
    rw [List.cons_append, List.filter_cons_of_neg (by simp), List.filter_eq_self.mpr others] at kept
    exact kept

/-- The resolver that a task was to use is in its hands once it runs. -/
theorem Orderly.pop (orderly : Orderly moving timeline) {task : Task} {rest : List Task}
    (ready : timeline.ready = task :: rest) (forwards : ∀ batch, task ≠ .forward batch)
    (works : ∀ worker, task ≠ .work worker) :
    Orderly (task.delivery?.toList ++ moving) { timeline with ready := rest } where
  booked := orderly.booked
  resting := orderly.resting
  forwards := by
    intro batch member given
    have old := orderly.forwards batch member given
    rw [ready] at old
    exact List.mem_of_ne_of_mem (Ne.symm (forwards batch.id)) old
  works := by
    intro worker busy
    have old := orderly.works worker busy
    rw [ready] at old
    exact List.mem_of_ne_of_mem (Ne.symm (works worker)) old
  custody := by
    have custody := orderly.custody
    cases brings : task.delivery? with
    | none =>
      rw [delivering, ready, List.filterMap_cons_none brings] at custody
      exact custody
    | some batch =>
      rw [delivering, ready, List.filterMap_cons_some brings] at custody
      apply custody.trans
      simp only [← List.append_assoc]
      exact List.perm_middle
  waits := orderly.waits

/-- What a poll makes of a timeline. -/
inductive Polled (timeline : Timeline) (index : Nat) : Timeline → Prop where
  | absent : Polled timeline index timeline
  | decided {wait : Wait} {result : WaitState} (event : Event)
      (found : timeline.waits[index]? = some wait)
      (judged : wait.barrier.judge (timeline.nowMs - wait.begunMs) timeline.pending = some result) :
      Polled timeline index { timeline.enter event with
        waits := timeline.waits.set index { wait with result := some result } }
  | again {wait : Wait} (event : Event) (found : timeline.waits[index]? = some wait) :
      Polled timeline index ((timeline.enter event).setTimer wait.barrier.intervalMs (.poll index))

theorem polled (timeline : Timeline) (index : Nat) :
    Polled timeline index (timeline.pollWait index) := by
  simp only [pollWait]
  split
  · exact .absent
  · rename_i wait found
    split
    · rename_i result judged
      exact .decided _ found judged
    · exact .again _ found

theorem delayed_setTimer (timeline : Timeline) (delayMs : Nat) (task : Task) :
    (timeline.setTimer delayMs task).delayed = timeline.delayed ++
      (task.delivery?.map fun batch => (batch, timeline.nowMs + Sleep.lengthMs delayMs)).toList := by
  simp only [delayed, setTimer, List.filterMap_append]
  cases task <;> rfl

theorem Polled.orderly {index : Nat} {later : Timeline} (polled : Polled timeline index later)
    (orderly : Orderly moving timeline) : Orderly moving later := by
  cases polled with
  | absent => exact orderly
  | @decided known result event found =>
    have entered := orderly.enter event
    refine ⟨entered.booked, entered.resting, entered.forwards, entered.works, entered.custody, ?_⟩
    intro wait member
    rcases List.mem_or_eq_of_mem_set member with old | rfl
    · exact orderly.waits wait old
    · exact orderly.waits known (List.mem_of_getElem? found)
  | @again wait event found =>
    have entered := orderly.enter event
    refine ⟨entered.booked, entered.resting, entered.forwards, entered.works, ?_, entered.waits⟩
    have same : ((timeline.enter event).setTimer wait.barrier.intervalMs (.poll index)).delayed =
        timeline.delayed := by
      rw [delayed_setTimer]
      simp [Task.delivery?, enter, delayed]
    rw [same]
    exact orderly.custody

/-- No task loses anything that is left to be done. -/
theorem Orderly.runTask (orderly : Orderly moving timeline) {task : Task} {rest : List Task}
    (ready : timeline.ready = task :: rest) :
    Orderly moving ({ timeline with ready := rest }.runTask task) := by
  cases task with
  | forward batch => exact orderly.forward ready
  | work worker => exact orderly.work ready
  | poll index => exact (polled _ index).orderly (orderly.pop ready (by simp) (by simp))
  | deliver batch outcome =>
    have popped : Orderly (batch :: moving) { timeline with ready := rest } :=
      orderly.pop ready (by simp) (by simp)
    have run : { timeline with ready := rest }.runTask (.deliver batch outcome) =
        ({ timeline with ready := rest }.perform [.deliver batch outcome]).wake
          (.forward batch) := by
      simp only [Timeline.runTask, Task.steps, perform, popped.wakes_deliver, wakeAll,
        List.foldl_cons, List.foldl_nil]
    rw [run]
    exact popped.deliver outcome

theorem Polled.kept {index : Nat} {later : Timeline} (polled : Polled timeline index later)
    (orderly : Orderly moving timeline) : Kept timeline later := by
  cases polled with
  | absent => exact .refl timeline
  | decided => exact ⟨rfl, rfl, rfl, fun _ member => .inl member, rfl, .of_workers rfl⟩
  | @again wait event found =>
    refine ⟨rfl, rfl, ?_, ?_, rfl, .of_workers rfl⟩
    · rw [delayed_setTimer]
      simp [Task.delivery?, enter, delayed]
    · intro timer member
      rcases List.mem_append.mp member with old | new
      · exact .inl old
      · have positive := orderly.waits wait (List.mem_of_getElem? found)
        have lasts : 0 < Sleep.lengthMs wait.barrier.intervalMs :=
          Nat.lt_min.mpr ⟨positive, by decide⟩
        rw [List.mem_singleton.mp new]
        exact .inr (Nat.lt_add_of_pos_right lasts)

theorem Polled.ready {index : Nat} {later : Timeline} (polled : Polled timeline index later) :
    later.ready = timeline.ready := by
  cases polled <;> rfl

theorem Kept.runTask (orderly : Orderly moving timeline) {task : Task} {rest : List Task}
    (ready : timeline.ready = task :: rest) :
    Kept timeline ({ timeline with ready := rest }.runTask task) := by
  have popped : Kept timeline { timeline with ready := rest } :=
    ⟨rfl, rfl, rfl, fun _ member => .inl member, rfl, .of_workers rfl⟩
  apply popped.trans
  cases task with
  | forward batch =>
    have effect := Ledger.forwarded orderly.resting orderly.booked.distinct batch
    exact (Kept.perform { timeline with ready := rest } effect.next).trans (.wakeAll _ _)
  | work worker =>
    obtain ⟨history, run⟩ := orderly.booked.run
    have effect := Ledger.worked orderly.resting run worker
    exact (Kept.perform { timeline with ready := rest } effect.next).trans (.wakeAll _ _)
  | poll index => exact (polled _ index).kept (orderly.pop ready (by simp) (by simp))
  | deliver batch outcome =>
    have popped : Orderly (batch :: moving) { timeline with ready := rest } :=
      orderly.pop ready (by simp) (by simp)
    exact (Kept.deliver popped outcome).trans (.wakeAll _ _)

theorem totalWeight_runTask (timeline : Timeline) (task : Task) :
    Task.totalWeight (timeline.runTask task).ready <
      Task.totalWeight timeline.ready + task.weight := by
  have woken (steps : List Step) (tasks : List Task)
      (light : Task.totalWeight tasks < task.weight) :
      Task.totalWeight ((timeline.perform steps).wakeAll tasks).ready <
        Task.totalWeight timeline.ready + task.weight := by
    have weight := totalWeight_wakeAll (timeline.perform steps) tasks
    change _ ≤ Task.totalWeight timeline.ready + _ at weight
    omega
  cases task with
  | poll index =>
    have same := (polled timeline index).ready
    show Task.totalWeight (timeline.pollWait index).ready < _
    rw [same]
    exact Nat.lt_succ_self _
  | forward batch => exact woken _ _ (Task.totalWeight_wakes _ _ _)
  | work worker => exact woken _ _ (Task.totalWeight_wakes _ _ _)
  | deliver batch outcome => exact woken _ _ (Task.totalWeight_wakes _ _ _)

/-! All tasks -/

theorem runReady_idle (idle : timeline.ready = []) : timeline.runReady = timeline := by
  rw [runReady, idle]
  rfl

theorem ready_runTasks {turns : Nat} (enough : Task.totalWeight timeline.ready ≤ turns) :
    (timeline.runTasks turns).ready = [] := by
  induction turns generalizing timeline with
  | zero =>
    unfold Timeline.runTasks
    cases ready : timeline.ready with
    | nil => rfl
    | cons task rest =>
      rw [ready] at enough
      cases task <;> simp [Task.totalWeight, Task.weight] at enough
  | succ turns ih =>
    unfold Timeline.runTasks
    cases ready : timeline.ready with
    | nil => exact ready
    | cons task rest =>
      have lighter := totalWeight_runTask { timeline with ready := rest } task
      change _ < Task.totalWeight rest + task.weight at lighter
      rw [ready] at enough
      simp only [Task.totalWeight] at enough
      exact ih (by omega)

/-- Whatever can run, none of it is left in the end. -/
theorem ready_runReady (timeline : Timeline) : timeline.runReady.ready = [] :=
  ready_runTasks (Nat.le_refl _)

theorem Orderly.runTasks (orderly : Orderly moving timeline) (turns : Nat) :
    Orderly moving (timeline.runTasks turns) ∧ Kept timeline (timeline.runTasks turns) := by
  induction turns generalizing timeline with
  | zero => exact ⟨orderly, .refl timeline⟩
  | succ turns ih =>
    unfold Timeline.runTasks
    cases ready : timeline.ready with
    | nil => exact ⟨orderly, .refl timeline⟩
    | cons task rest =>
      obtain ⟨after, kept⟩ := ih (orderly.runTask ready)
      exact ⟨after, (Kept.runTask orderly ready).trans kept⟩

/-- When no task can run any more, everything is still in order. -/
theorem Orderly.runReady (orderly : Orderly moving timeline) :
    Orderly moving timeline.runReady ∧ timeline.runReady.ready = [] ∧
      Kept timeline timeline.runReady := by
  obtain ⟨after, kept⟩ := orderly.runTasks (Task.totalWeight timeline.ready)
  exact ⟨after, timeline.ready_runReady, kept⟩

end

end Timeline

end CheckpointSink.Settlement
