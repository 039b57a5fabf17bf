import CheckpointSink.Proofs.Settlement.Crew

/-!
The stop of a worker. It takes no time and leaves the count alone, whatever is outstanding then, and
nothing that comes after it knows of it. Outcomes may come at one and the same time here: only their
number matters.
-/

namespace CheckpointSink.Settlement

namespace Schedule

/-- The batches whose resolvers are used later on, and when. -/
def dues (schedule : Schedule) : List (Nat × Nat) :=
  schedule.coming.map fun appointment => (appointment.batch, appointment.dueMs)

/-- The counted batches whose outcomes are still to come. -/
def outstanding (schedule : Schedule) : List Nat :=
  schedule.held ++ schedule.coming.map Appointment.batch

/-- The schedule after a script. -/
def after (schedule : Schedule) : List WorkerStep → Schedule
  | [] => schedule
  | first :: rest => (schedule.step first).2.after rest

theorem after_append (schedule : Schedule) (first second : List WorkerStep) :
    schedule.after (first ++ second) = (schedule.after first).after second := by
  induction first generalizing schedule with
  | nil => rfl
  | cons action rest ih => exact ih _

/-- The earliest outcomes are the first to come. -/
def Sorted (schedule : Schedule) : Prop :=
  schedule.coming.Pairwise fun first second => first.dueMs ≤ second.dueMs

variable {schedule : Schedule}

theorem use_eq (schedule : Schedule) (outcomes : List (Nat × Outcome)) :
    (schedule.use outcomes).2 =
      { schedule with held := Timeline.leftOver schedule.held outcomes } := by
  induction outcomes generalizing schedule with
  | nil => rfl
  | cons given rest ih =>
    rw [use, Timeline.leftOver, List.foldl_cons]
    split
    · exact ih _
    · rename_i absent
      rw [List.erase_of_not_mem absent]
      exact ih schedule

theorem dropWhile_due {coming : List Appointment}
    (sorted : coming.Pairwise fun first second => first.dueMs ≤ second.dueMs) (untilMs : Nat) :
    coming.dropWhile (fun appointment => decide (appointment.dueMs ≤ untilMs)) =
      coming.filter fun appointment => decide (untilMs < appointment.dueMs) := by
  induction coming with
  | nil => rfl
  | cons first rest ih =>
    obtain ⟨after, others⟩ := List.pairwise_cons.mp sorted
    by_cases due : first.dueMs ≤ untilMs
    · have past : ¬untilMs < first.dueMs := by omega
      simp [due, past, ih others]
    · have ahead : ∀ appointment ∈ first :: rest,
          decide (untilMs < appointment.dueMs) = true := by
        intro appointment member
        rcases List.mem_cons.mp member with rfl | later
        · simpa using due
        · have since := after appointment later
          simp
          omega
      rw [List.filter_eq_self.mpr ahead, List.dropWhile_cons_of_neg (by simpa using due)]

theorem Sorted.elapse (sorted : schedule.Sorted) (untilMs : Nat) :
    (schedule.elapse untilMs).2.Sorted :=
  sorted.sublist (List.dropWhile_sublist _)

theorem Sorted.dues_elapse (sorted : schedule.Sorted) (untilMs : Nat) :
    (schedule.elapse untilMs).2.dues =
      schedule.dues.filter fun given => decide (untilMs < given.2) := by
  simp only [dues, Schedule.elapse, dropWhile_due sorted, List.filter_map]
  rfl

theorem Sorted.appoint (sorted : schedule.Sorted) (appointment : Appointment) :
    (schedule.appoint appointment).Sorted := by
  refine List.pairwise_append.mpr ⟨sorted.filter _,
    List.pairwise_cons.mpr ⟨?_, sorted.filter _⟩, ?_⟩
  · intro other member
    have late : appointment.dueMs < other.dueMs := by simpa using (List.mem_filter.mp member).2
    exact late.le
  · intro before earlier after later
    have soon : before.dueMs ≤ appointment.dueMs := by simpa using (List.mem_filter.mp earlier).2
    rcases List.mem_cons.mp later with rfl | member
    · exact soon
    · have late : appointment.dueMs < after.dueMs := by simpa using (List.mem_filter.mp member).2
      omega

end Schedule

namespace Timeline

variable {schedule : Schedule} {timeline : Timeline}

/-- The outcomes to come to a timeline are those of a schedule, and the time is the same. -/
structure Agrees (schedule : Schedule) (timeline : Timeline) : Prop where
  nowMs : timeline.nowMs = schedule.nowMs
  next : timeline.ledger.next = schedule.next
  resolvers : timeline.resolvers = schedule.held
  delayed : timeline.delayed.Perm schedule.dues
  sorted : schedule.Sorted

theorem Agrees.kept (agrees : Agrees schedule timeline) {later : Timeline}
    (kept : Kept timeline later) : Agrees schedule later where
  nowMs := kept.nowMs.trans agrees.nowMs
  next := kept.next.trans agrees.next
  resolvers := kept.resolvers.trans agrees.resolvers
  delayed := kept.delayed ▸ agrees.delayed
  sorted := agrees.sorted

/-- What is due while time passes is no longer to come. -/
theorem Agrees.passed (agrees : Agrees schedule timeline) {later : Timeline}
    (passed : Passed timeline later) {untilMs : Nat} (nowMs : later.nowMs = untilMs) :
    Agrees (schedule.elapse untilMs).2 later where
  nowMs := nowMs
  next := passed.next.trans agrees.next
  resolvers := passed.resolvers.trans agrees.resolvers
  delayed := by
    rw [passed.delayed, agrees.sorted.dues_elapse, nowMs]
    exact agrees.delayed.filter _
  sorted := agrees.sorted.elapse untilMs

/-- A resolver that is taken to be used later is no longer in hand. -/
theorem Agrees.appoint (agrees : Agrees schedule timeline) (batch delayMs : Nat) (outcome : Outcome) :
    Agrees (schedule.appoint (schedule.appointment batch delayMs outcome))
      ((timeline.removeResolver batch).setTimer delayMs (.deliver batch outcome)) where
  nowMs := agrees.nowMs
  next := agrees.next
  resolvers := congrArg (List.erase · batch) agrees.resolvers
  delayed := by
    have taken := (schedule.coming_appoint_perm (schedule.appointment batch delayMs outcome)).map
      fun appointment => (appointment.batch, appointment.dueMs)
    have set : ((timeline.removeResolver batch).setTimer delayMs (.deliver batch outcome)).delayed =
        timeline.delayed ++ [(batch, schedule.nowMs + Sleep.lengthMs delayMs)] := by
      rw [delayed_setTimer, ← agrees.nowMs]
      rfl
    rw [set]
    exact (List.perm_append_singleton _ _).trans ((agrees.delayed.cons _).trans taken.symm)
  sorted := agrees.sorted.appoint _

/-- The count is that of the batches whose outcomes are still to come. -/
theorem Agrees.pending (agrees : Agrees schedule timeline) (settled : Settled timeline) :
    timeline.pending = schedule.unresolved := by
  have dues := agrees.delayed.length_eq
  rw [settled.pending, agrees.resolvers, dues, Schedule.dues, List.length_map, Schedule.unresolved]
  norm_cast

/-- They are the batches that are not settled. -/
theorem Agrees.outstanding (agrees : Agrees schedule timeline) (settled : Settled timeline) :
    timeline.ledger.outstanding.Perm schedule.outstanding := by
  have open_ : timeline.ledger.undelivered = timeline.ledger.ids := by
    have all : timeline.ledger.batches.filter (fun batch => batch.delivered.isNone) =
        timeline.ledger.batches :=
      List.filter_eq_self.mpr fun batch member => by
        simp [settled.orderly.delivered_of_idle settled.idle batch member]
    rw [Ledger.undelivered, all]
    rfl
  have dues := agrees.delayed.map Prod.fst
  have custody := settled.custody
  rw [open_, agrees.resolvers] at custody
  rw [Ledger.outstanding, settled.orderly.resting.discarded,
    Ledger.queued_of_idle (settled.orderly.queue_of_idle settled.idle), List.map_nil,
    List.append_nil, List.append_nil]
  refine custody.trans (List.Perm.append_left _ (dues.trans (.of_eq ?_)))
  rw [Schedule.dues, List.map_map]
  rfl

/-- Every batch that was counted is settled once, unless its outcome is still to come. -/
theorem Agrees.settled_count (agrees : Agrees schedule timeline) (settled : Settled timeline)
    {history : History} (run : Run history timeline.ledger) {batch : Nat}
    (counted : batch < schedule.next) :
    history.settled.count batch = if batch ∈ schedule.outstanding then 0 else 1 := by
  have accounted := run.accounted
  have place : batch ∈ timeline.ledger.outstanding ↔ _ := accounted.mem_outstanding_iff
  rw [(agrees.outstanding settled).mem_iff, ← accounted.next, agrees.next] at place
  by_cases open_ : batch ∈ schedule.outstanding
  · rw [if_pos open_, List.count_eq_zero]
    exact (place.mp open_).2
  · have once := accounted.settled_count_le batch
    have member : batch ∈ history.settled := by
      by_contra absent
      exact open_ (place.mpr ⟨counted, absent⟩)
    have some_ := List.count_pos_iff.mpr member
    rw [if_neg open_]
    omega

end Timeline

/-! Stations -/

/-- The steps that change the worker in hand. -/
def WorkerStep.isStaffing : WorkerStep → Bool
  | shutdown _ => true
  | drop => true
  | start => true
  | _ => false

theorem Schedule.staffed_step (schedule : Schedule) {action : WorkerStep}
    (inner : action.isStaffing = false) :
    (schedule.step action).2.staffed = schedule.staffed := by
  cases action with
  | attach delivered => 
    cases staffed : schedule.staffed <;> cases delivered <;> simp [step, staffed]
  | resolve outcomes => exact schedule.staffed_use outcomes
  | resolveAfter batch delayMs outcome =>
    rw [step]
    split <;> rfl
  | sleep delayMs => rfl
  | _ => cases inner

namespace Station

open Timeline

theorem handle_step (station : Station) {action : WorkerStep} (inner : action.isStaffing = false) :
    (station.step action).2.handle = station.handle := by
  obtain ⟨timeline, handle⟩ := station
  cases action with
  | attach delivered => cases handle <;> rfl
  | resolve outcomes => rfl
  | resolveAfter batch delayMs outcome => rfl
  | sleep delayMs => rfl
  | _ => cases inner

/-- The worker in hand while it is at work. -/
def current (station : Station) : Option Nat :=
  station.handle.bind fun handle => if handle.awaitable then some handle.worker else none

variable {schedule : Schedule} {station : Station}

/-- A station between two steps. Its schedule knows what is to come, and all workers have ended but
the one in hand, which is at work until it is stopped. -/
structure Tracks (schedule : Schedule) (station : Station) : Prop where
  agrees : Agrees schedule station.timeline
  settled : Settled station.timeline
  staffed : schedule.staffed = station.handle.isSome
  hired : ∀ handle, station.handle = some handle →
    handle.worker < station.timeline.ledger.workers.length
  atWork : station.timeline.ledger.AtWork station.current

/-- The timeline of a station after a step, to which the outcomes to come are those of a schedule. -/
structure Advances (schedule : Schedule) (station : Station) (timeline : Timeline) : Prop where
  agrees : Agrees schedule timeline
  settled : Settled timeline
  staffed : station.timeline.ledger.Staffed timeline.ledger

theorem Advances.of_passed {before timeline : Timeline} (agrees : Agrees schedule timeline)
    (settled : Settled timeline) (passed : Passed before timeline)
    (workers : before.ledger.workers = station.timeline.ledger.workers) :
    Advances schedule station timeline.runReady := by
  rw [runReady_idle settled.idle]
  exact ⟨agrees, settled, (Ledger.Staffed.of_workers workers).trans passed.staffed⟩

namespace Tracks

theorem cleared (tracks : Tracks schedule station) : Agrees schedule station.timeline.clearEntries :=
  ⟨tracks.agrees.nowMs, tracks.agrees.next, tracks.agrees.resolvers, tracks.agrees.delayed,
    tracks.agrees.sorted⟩

/-- Nothing but the entries of earlier steps has changed. -/
theorem idle (tracks : Tracks schedule station) :
    Advances schedule station station.timeline.clearEntries.runReady := by
  rw [runReady_idle tracks.settled.clear.idle]
  exact ⟨tracks.cleared, tracks.settled.clear, .of_workers rfl⟩

/-- Tasks run once something was done from outside. -/
theorem runReady (tracks : Tracks schedule station) {later : Schedule} {ledger : Ledger}
    {resolvers : List Nat} {timeline : Timeline} (orderly : Orderly [] timeline)
    (kept : Kept { station.timeline with ledger, resolvers } timeline)
    (agrees : Agrees later { station.timeline with ledger, resolvers })
    (workers : ledger.workers = station.timeline.ledger.workers) :
    Advances later station timeline.runReady := by
  obtain ⟨settled, since⟩ := orderly.settle (kept.ahead tracks.settled.ahead)
  have all := kept.trans since
  exact ⟨agrees.kept all, settled, (Ledger.Staffed.of_workers workers).trans all.staffed⟩

/-- What is known of a worker in hand. -/
theorem worker? (tracks : Tracks schedule station) {handle : WorkerHandle}
    (held : station.handle = some handle) :
    station.timeline.clearEntries.ledger.worker? handle.worker =
      some (if handle.awaitable then .fresh else .gone) := by
  have known := tracks.settled.worker_eq tracks.atWork (tracks.hired handle held)
  have same : station.current = some handle.worker ↔ handle.awaitable = true := by
    rw [current, held, Option.bind_some]
    split <;> simp [*]
  simp only [same] at known
  exact known

/-! Batches and time -/

theorem attach (tracks : Tracks schedule station) (delivered : Option Outcome) :
    Advances (schedule.step (.attach delivered)).2 station
      (station.step (.attach delivered)).2.timeline := by
  obtain ⟨timeline, handle⟩ := station
  have cleared : Agrees schedule timeline.clearEntries := tracks.cleared
  cases handle with
  | none =>
    have staffed : schedule.staffed = false := tracks.staffed
    simp only [Schedule.step, staffed]
    exact tracks.idle
  | some handle =>
    have staffed : schedule.staffed = true := tracks.staffed
    have known := tracks.worker? rfl
    obtain ⟨orderly, kept⟩ := tracks.settled.clear.orderly.submit known delivered
    have counted : timeline.ledger.next + 1 = schedule.next + 1 := by rw [cleared.next.symm]; rfl
    cases delivered with
    | none =>
      have more : timeline.resolvers ++ [timeline.ledger.next] = schedule.held ++ [schedule.next] := by
        rw [← cleared.next, ← cleared.resolvers]
        rfl
      simp only [Schedule.step, staffed]
      exact tracks.runReady orderly.addResolver
        (kept.resolvers_map fun resolvers => resolvers ++ [timeline.ledger.next])
        ⟨cleared.nowMs, counted, more, cleared.delayed, cleared.sorted⟩ rfl
    | some outcome =>
      simp only [Schedule.step, staffed]
      exact tracks.runReady orderly kept
        ⟨cleared.nowMs, counted, cleared.resolvers, cleared.delayed, cleared.sorted⟩ rfl

theorem resolve (tracks : Tracks schedule station) (outcomes : List (Nat × Outcome)) :
    Advances (schedule.step (.resolve outcomes)).2 station
      (station.step (.resolve outcomes)).2.timeline := by
  have cleared := tracks.cleared
  obtain ⟨settled, kept⟩ := tracks.settled.clear.resolveAll outcomes
  have used : leftOver station.timeline.resolvers outcomes = leftOver schedule.held outcomes := by
    rw [← cleared.resolvers]
    rfl
  simp only [Schedule.step, Schedule.use_eq]
  exact tracks.runReady settled.orderly kept
    ⟨cleared.nowMs, cleared.next, used, cleared.delayed, cleared.sorted⟩ rfl

theorem resolveAfter (tracks : Tracks schedule station) (batch delayMs : Nat) (outcome : Outcome) :
    Advances (schedule.step (.resolveAfter batch delayMs outcome)).2 station
      (station.step (.resolveAfter batch delayMs outcome)).2.timeline := by
  have cleared := tracks.cleared
  have same : batch ∈ station.timeline.clearEntries.resolvers ↔ batch ∈ schedule.held := by
    rw [cleared.resolvers]
  by_cases held : batch ∈ schedule.held
  · obtain ⟨settled, nowMs, passed⟩ :=
      tracks.settled.clear.resolveAfter (same.mpr held) delayMs outcome
    have later := (cleared.appoint batch delayMs outcome).passed passed (nowMs.trans cleared.nowMs)
    simp only [Schedule.step, if_pos held]
    exact .of_passed later settled passed rfl
  · have unknown := mt hasResolver_iff.mp (mt same.mp held)
    simp only [Schedule.step, if_neg held, Station.step, perform, Timeline.resolveAfter,
      if_neg unknown]
    exact tracks.idle

theorem sleep (tracks : Tracks schedule station) (delayMs : Nat) :
    Advances (schedule.step (.sleep delayMs)).2 station
      (station.step (.sleep delayMs)).2.timeline := by
  have cleared := tracks.cleared
  obtain ⟨settled, nowMs, passed⟩ := tracks.settled.clear.pass (Sleep.lengthMs delayMs)
  rw [cleared.nowMs] at nowMs
  exact .of_passed (cleared.passed passed nowMs) settled passed rfl

/-! Workers -/

/-- The worker in hand changes, and nothing that is to come. -/
theorem restaffed (tracks : Tracks schedule station) {timeline : Timeline} (orderly : Orderly [] timeline)
    (kept : Kept station.timeline.clearEntries timeline) (staffed : Bool) :
    Advances { schedule with staffed } station timeline.runReady :=
  have cleared := tracks.cleared
  tracks.runReady orderly kept
    ⟨cleared.nowMs, cleared.next, cleared.resolvers, cleared.delayed, cleared.sorted⟩ rfl

theorem shutdown (tracks : Tracks schedule station) (graceMs : Nat) :
    Advances schedule station (station.step (.shutdown graceMs)).2.timeline := by
  obtain ⟨timeline, handle⟩ := station
  cases handle with
  | none => exact tracks.idle
  | some handle =>
    have unqueued := tracks.settled.clear.orderly.unqueued tracks.settled.idle
    obtain ⟨orderly, kept⟩ := unqueued.shutdown handle graceMs (tracks.hired handle rfl)
    exact tracks.restaffed orderly kept schedule.staffed

theorem drop (tracks : Tracks schedule station) :
    Advances { schedule with staffed := false } station (station.step .drop).2.timeline := by
  obtain ⟨timeline, handle⟩ := station
  cases handle with
  | none =>
    have staffed : schedule.staffed = false := tracks.staffed
    rw [← staffed]
    exact tracks.idle
  | some handle =>
    obtain ⟨dropped, kept⟩ :=
      (tracks.settled.clear.orderly.unqueued tracks.settled.idle).drop handle
    exact tracks.restaffed dropped.orderly kept false

theorem start (tracks : Tracks schedule station) :
    Advances { schedule with staffed := true } station (station.step .start).2.timeline := by
  obtain ⟨timeline, handle⟩ := station
  have unqueued := tracks.settled.clear.orderly.unqueued tracks.settled.idle
  obtain ⟨orderly, kept, -⟩ := tracks.settled.clear.orderly.start
  cases handle with
  | none => exact tracks.restaffed orderly kept true
  | some handle =>
    obtain ⟨dropped, since⟩ := unqueued.start.drop handle
    exact tracks.restaffed dropped.orderly (kept.trans since) true

theorem advances (tracks : Tracks schedule station) (action : WorkerStep) :
    Advances (schedule.step action).2 station (station.step action).2.timeline := by
  cases action with
  | attach delivered => exact tracks.attach delivered
  | resolve outcomes => exact tracks.resolve outcomes
  | resolveAfter batch delayMs outcome => exact tracks.resolveAfter batch delayMs outcome
  | sleep delayMs => exact tracks.sleep delayMs
  | shutdown graceMs => exact tracks.shutdown graceMs
  | drop => exact tracks.drop
  | start => exact tracks.start

/-! What is at work -/

/-- What tasks keep, and what has nothing to do with batches, lasts while the worker in hand is left
alone. -/
theorem lasts (tracks : Tracks schedule station) {kept : Ledger → Prop} (lasts : Ledger.Lasts kept)
    (blind : ∀ {ledger : Ledger} (pending : Int) (next : Nat) (batches : List Batch), kept ledger →
      kept { ledger with pending, next, batches })
    (holds : kept station.timeline.clearEntries.ledger) {action : WorkerStep}
    (inner : action.isStaffing = false) : kept (station.step action).2.timeline.ledger := by
  obtain ⟨timeline, handle⟩ := station
  cases action with
  | attach delivered =>
    cases handle with
    | none => exact lasts.runReady holds
    | some handle =>
      have submitted := submit_eq tracks.settled.clear.orderly.booked tracks.settled.idle
        (tracks.worker? rfl) delivered
      have counted : kept (timeline.clearEntries.submit delivered handle.worker).ledger := by
        rw [submitted]
        exact blind _ _ _ holds
      cases delivered <;> exact lasts.runReady counted
  | resolve outcomes => exact lasts.runReady (lasts.resolveAll holds outcomes)
  | resolveAfter batch delayMs outcome =>
    exact lasts.runReady (lasts.resolveAfter holds batch delayMs outcome)
  | sleep delayMs => exact lasts.runReady (lasts.pass holds _)
  | shutdown graceMs => cases inner
  | drop => cases inner
  | start => cases inner

/-- The stop of a worker at work. -/
theorem shutdown_running (tracks : Tracks schedule station) {worker : Nat}
    (running : station.handle = some ⟨worker, true⟩) (graceMs : Nat) :
    let entries := (stopEvents graceMs station.timeline.pending).map
      (Entry.event · station.timeline.pending)
    station.step (.shutdown graceMs) =
      (⟨.flag true, station.timeline.pending, station.timeline.nowMs, entries⟩,
        ⟨station.timeline.restaffed worker .gone entries.reverse, some ⟨worker, false⟩⟩) := by
  have stopped := tracks.settled.clear.shutdown_fresh (tracks.worker? running) rfl graceMs
  rw [show station.timeline.clearEntries.ledger.entries = [] from rfl, List.append_nil] at stopped
  obtain ⟨timeline, handle⟩ := station
  subst running
  have same : (WorkerHandle.shutdown ⟨worker, true⟩ graceMs timeline.clearEntries).1 =
      ⟨worker, false⟩ := rfl
  simp only [Station.step, perform, Station.shutdown, stopped, same]
  simp [Timeline.restaffed, Timeline.pending, clearEntries, Ledger.setWorker]

/-- Another stop of the same worker. -/
theorem shutdown_stopped (tracks : Tracks schedule station) {worker : Nat}
    (stopped : station.handle = some ⟨worker, false⟩) (graceMs : Nat) :
    station.step (.shutdown graceMs) =
      (⟨.flag true, station.timeline.pending, station.timeline.nowMs, []⟩,
        { station with timeline := station.timeline.clearEntries }) := by
  have released := tracks.settled.clear.release_gone (tracks.worker? stopped)
  obtain ⟨timeline, handle⟩ := station
  subst stopped
  have same : WorkerHandle.shutdown ⟨worker, false⟩ graceMs timeline.clearEntries =
      (⟨worker, false⟩, WorkerHandle.release ⟨worker, false⟩ timeline.clearEntries) := rfl
  simp only [Station.step, perform, Station.shutdown, same, released]
  rfl

theorem drop_running (tracks : Tracks schedule station) {worker : Nat}
    (running : station.handle = some ⟨worker, true⟩) :
    (station.step .drop).2 = ⟨station.timeline.restaffed worker .gone [], none⟩ := by
  have dropped := tracks.settled.clear.drop_fresh (tracks.worker? running) rfl
  obtain ⟨timeline, handle⟩ := station
  subst running
  simp only [Station.step, perform, Station.drop, dropped]
  rfl

theorem drop_stopped (tracks : Tracks schedule station) {worker : Nat}
    (stopped : station.handle = some ⟨worker, false⟩) :
    (station.step .drop).2 = ⟨station.timeline.clearEntries, none⟩ := by
  have released := tracks.settled.clear.release_gone (tracks.worker? stopped)
  obtain ⟨timeline, handle⟩ := station
  subst stopped
  have same : WorkerHandle.drop ⟨worker, false⟩ timeline.clearEntries =
      WorkerHandle.release ⟨worker, false⟩ timeline.clearEntries := rfl
  simp only [Station.step, perform, Station.drop, same, released]

theorem start_first (tracks : Tracks schedule station) (unstaffed : station.handle = none) :
    (station.step .start).2 = ⟨station.timeline.clearEntries.recruited,
      some ⟨station.timeline.ledger.workers.length, true⟩⟩ := by
  have started := tracks.settled.clear.runReady_start
  obtain ⟨timeline, handle⟩ := station
  subst unstaffed
  simp only [Station.step, perform, Station.start, started]
  rfl

theorem start_another (tracks : Tracks schedule station) {handle : WorkerHandle}
    (held : station.handle = some handle) :
    (station.step .start).2 = ⟨(station.timeline.restaffed handle.worker .gone []).recruited,
      some ⟨station.timeline.ledger.workers.length, true⟩⟩ := by
  have replaced := tracks.settled.clear.runReady_replace (tracks.worker? held)
  rw [← recruited_restaffed (tracks.hired handle held)]
  obtain ⟨timeline, former⟩ := station
  subst held
  simp only [Station.step, perform, Station.start, replaced]
  rfl

theorem unstaffed (tracks : Tracks schedule station) (none : station.handle = none) (graceMs : Nat) :
    (station.step (.shutdown graceMs)).2 = { station with timeline := station.timeline.clearEntries } ∧
      (station.step .drop).2 = { station with timeline := station.timeline.clearEntries } := by
  have idle := runReady_idle tracks.settled.clear.idle
  obtain ⟨timeline, handle⟩ := station
  subst none
  simp only [Station.step, perform, Station.shutdown, Station.drop, idle, and_self]

theorem atWork_of_held (tracks : Tracks schedule station) {handle : WorkerHandle}
    (held : station.handle = some handle) :
    station.timeline.ledger.AtWork (if handle.awaitable then some handle.worker else none) := by
  have atWork := tracks.atWork
  rwa [current, held, Option.bind_some] at atWork

/-- None but the worker in hand can be at work, so once it gives way none is. -/
theorem dismissed (tracks : Tracks schedule station) {handle : WorkerHandle}
    (held : station.handle = some handle) (entries : List Entry) :
    (station.timeline.restaffed handle.worker .gone entries).ledger.AtWork none := by
  apply (tracks.atWork_of_held held).dismiss
  intro other same
  split at same
  · exact (Option.some.inj same).symm
  · cases same

/-- What becomes of the worker in hand. -/
theorem crew (tracks : Tracks schedule station) {action : WorkerStep}
    (staffing : action.isStaffing = true) :
    (schedule.step action).2.staffed = (station.step action).2.handle.isSome ∧
      (∀ handle, (station.step action).2.handle = some handle →
        handle.worker < (station.step action).2.timeline.ledger.workers.length) ∧
      (station.step action).2.timeline.ledger.AtWork (station.step action).2.current := by
  have staffed := tracks.staffed
  have hired := tracks.hired
  cases action with
  | shutdown graceMs =>
    cases held : station.handle with
    | none =>
      rw [(tracks.unstaffed held graceMs).1]
      exact ⟨staffed, hired, tracks.atWork⟩
    | some handle =>
      have bound := hired handle held
      rw [held] at staffed
      obtain ⟨worker, awaitable⟩ := handle
      cases awaitable with
      | true =>
        rw [tracks.shutdown_running held]
        refine ⟨staffed, ?_, tracks.dismissed held _⟩
        intro handle same
        cases same
        simpa [Timeline.restaffed, Ledger.setWorker] using bound
      | false =>
        rw [tracks.shutdown_stopped held]
        exact ⟨tracks.staffed, hired, tracks.atWork⟩
  | drop =>
    cases held : station.handle with
    | none =>
      rw [(tracks.unstaffed held 0).2]
      exact ⟨by rw [held]; rfl, hired, tracks.atWork⟩
    | some handle =>
      obtain ⟨worker, awaitable⟩ := handle
      cases awaitable with
      | true =>
        rw [tracks.drop_running held]
        exact ⟨rfl, by simp, tracks.dismissed held []⟩
      | false =>
        rw [tracks.drop_stopped held]
        exact ⟨rfl, by simp, tracks.atWork_of_held held⟩
  | start =>
    cases held : station.handle with
    | none =>
      have none_at_work : station.timeline.ledger.AtWork none := by
        have atWork := tracks.atWork
        rwa [current, held] at atWork
      rw [tracks.start_first held]
      refine ⟨rfl, ?_, none_at_work.hire⟩
      intro handle same
      cases same
      simp [Timeline.recruited, Ledger.start, clearEntries]
    | some handle =>
      have another := (tracks.dismissed held []).hire
      have length : (station.timeline.restaffed handle.worker .gone []).ledger.workers.length =
          station.timeline.ledger.workers.length := List.length_set
      rw [length] at another
      rw [tracks.start_another held]
      refine ⟨rfl, ?_, another⟩
      intro handle same
      cases same
      simp [Timeline.recruited, Timeline.restaffed, Ledger.start, Ledger.setWorker]
  | _ => cases staffing

/-- Every step leaves a station on its schedule. -/
theorem step (tracks : Tracks schedule station) (action : WorkerStep) :
    Tracks (schedule.step action).2 (station.step action).2 := by
  obtain ⟨agrees, settled, grown⟩ := tracks.advances action
  by_cases staffing : action.isStaffing = true
  · obtain ⟨staffed, hired, atWork⟩ := tracks.crew staffing
    exact ⟨agrees, settled, staffed, hired, atWork⟩
  · have inner : action.isStaffing = false := by simpa using staffing
    have same := station.handle_step inner
    have staffed := schedule.staffed_step inner
    refine ⟨agrees, settled, ?_, ?_, ?_⟩
    · rw [staffed, same, tracks.staffed]
    · intro handle held
      exact Nat.lt_of_lt_of_le (tracks.hired handle (same ▸ held)) grown.hired
    · rw [current, same]
      exact tracks.lasts (Ledger.lasts_atWork _) (fun _ _ _ atWork => atWork) tracks.atWork inner

theorem after (tracks : Tracks schedule station) (script : List WorkerStep) :
    Tracks (schedule.after script) (station.after script) ∧
      station.timeline.ledger.Staffed (station.after script).timeline.ledger := by
  induction script generalizing schedule station with
  | nil => exact ⟨tracks, .of_workers rfl⟩
  | cons first rest ih =>
    obtain ⟨later, staffed⟩ := ih (tracks.step first)
    exact ⟨later, (tracks.advances first).staffed.trans staffed⟩

/-! After the stop -/

/-- While none is at work and none is started, nothing is said of workers. -/
theorem silent (tracks : Tracks schedule station) (stopped : station.current = none)
    {action : WorkerStep} (unstarted : action ≠ .start) :
    (∀ entry ∈ (station.step action).1.entries, entry.ofStop = false) ∧
      (station.step action).2.current = none := by
  have atWork := tracks.atWork
  rw [stopped] at atWork
  have quiet : ∀ entry ∈ station.timeline.clearEntries.ledger.entries, entry.ofStop = false :=
    fun entry member => absurd member List.not_mem_nil
  suffices both : (∀ entry ∈ (station.step action).2.timeline.ledger.entries,
      entry.ofStop = false) ∧ (station.step action).2.current = none from
    ⟨fun entry member => both.1 entry (List.mem_reverse.mp member), both.2⟩
  by_cases staffing : action.isStaffing = true
  · have unchanged (same : (station.step action).2.timeline = station.timeline.clearEntries)
        (handle : (station.step action).2.current = none) :
        (∀ entry ∈ (station.step action).2.timeline.ledger.entries, entry.ofStop = false) ∧
          (station.step action).2.current = none := by
      rw [same]
      exact ⟨quiet, handle⟩
    cases held : station.handle with
    | none =>
      cases action with
      | shutdown graceMs =>
        have same := (tracks.unstaffed held graceMs).1
        exact unchanged (by rw [same]) (by rw [same]; exact stopped)
      | drop =>
        have same := (tracks.unstaffed held 0).2
        exact unchanged (by rw [same]) (by rw [same]; exact stopped)
      | start => exact absurd rfl unstarted
      | _ => cases staffing
    | some handle =>
      obtain ⟨worker, awaitable⟩ := handle
      have ended : awaitable = false := by simpa [current, held] using stopped
      subst ended
      cases action with
      | shutdown graceMs =>
        have same := tracks.shutdown_stopped held graceMs
        exact unchanged (by rw [same]) (by rw [same]; exact stopped)
      | drop =>
        have same := tracks.drop_stopped held
        exact unchanged (by rw [same]) (by rw [same]; rfl)
      | start => exact absurd rfl unstarted
      | _ => cases staffing
  · have inner : action.isStaffing = false := by simpa using staffing
    have still := tracks.lasts Ledger.lasts_silent
      (fun _ _ _ silent => ⟨silent.atWork, silent.entries⟩) ⟨atWork, quiet⟩ inner
    refine ⟨still.entries, ?_⟩
    rw [current, station.handle_step inner]
    exact stopped

theorem run_silent (tracks : Tracks schedule station) (stopped : station.current = none)
    {script : List WorkerStep} (unstarted : .start ∉ script) :
    ∀ report ∈ station.run script, ∀ entry ∈ report.entries, entry.ofStop = false := by
  induction script generalizing schedule station with
  | nil => exact fun report member => absurd member List.not_mem_nil
  | cons first rest ih =>
    rw [List.mem_cons, not_or] at unstarted
    obtain ⟨quiet, still⟩ := tracks.silent stopped (Ne.symm unstarted.1)
    intro report member
    rcases List.mem_cons.mp member with rfl | later
    · exact quiet
    · exact ih (tracks.step first) still unstarted.2 report later

/-- A worker that has ended has been stopped. -/
theorem awaited (tracks : Tracks schedule station) {handle : WorkerHandle}
    (held : station.handle = some handle)
    (ended : station.timeline.ledger.hasEnded handle.worker = true) : handle.awaitable = false := by
  by_contra awaitable
  have known : station.timeline.ledger.worker? handle.worker = _ := tracks.worker? held
  rw [if_pos (by simpa using awaitable)] at known
  simp [Ledger.hasEnded, known, Worker.fresh] at ended

theorem empty : Tracks ⟨false, 0, 0, [], []⟩ ⟨.empty, none⟩ where
  agrees := ⟨rfl, rfl, rfl, .refl _, .nil⟩
  settled := settled_empty
  staffed := rfl
  hired := by simp
  atWork worker state found := by cases found

theorem initial : Tracks .initial .initial :=
  empty.step .start

end Tracks

/-- The stop of a worker takes no time, whatever is outstanding. With a grace period the worker
drains, and without one it is cancelled. Another stop of it does nothing, and nothing is said of it
any more. Every batch is settled once its outcome has come, and only once, whether it was counted
before the stop or after it. -/
theorem stops_at_once (before : List WorkerStep) (worker : Nat)
    (running : (Station.initial.after before).handle = some ⟨worker, true⟩) (graceMs : Nat) :
    let station := Station.initial.after before
    let pending := station.timeline.pending
    let stopped := station.step (.shutdown graceMs)
    stopped.1 = ⟨.flag true, pending, station.timeline.nowMs,
      (stopEvents graceMs pending).map (Entry.event · pending)⟩ ∧
    ∀ later : List WorkerStep,
      let after := stopped.2.after later
      let schedule := Schedule.initial.after (before ++ .shutdown graceMs :: later)
      (∀ handle, after.handle = some handle → handle.worker = worker → ∀ againMs,
        after.step (.shutdown againMs) =
          (⟨.flag true, after.timeline.pending, after.timeline.nowMs, []⟩,
            { after with timeline := after.timeline.clearEntries })) ∧
      (.start ∉ later →
        ∀ report ∈ stopped.2.run later, ∀ entry ∈ report.entries, entry.ofStop = false) ∧
      after.timeline.pending = schedule.unresolved ∧
      (∃ history, Run history after.timeline.ledger) ∧
      ∀ history, Run history after.timeline.ledger → history.counted = schedule.next ∧
        ∀ batch < schedule.next,
          history.settled.count batch = if batch ∈ schedule.outstanding then 0 else 1 := by
  intro station pending stopped
  have reached : Tracks (Schedule.initial.after before) station := (Tracks.initial.after before).1
  have stop := reached.shutdown_running running graceMs
  have since : Tracks (Schedule.initial.after before) stopped.2 := reached.step (.shutdown graceMs)
  have handle : stopped.2.handle = some ⟨worker, false⟩ := congrArg (fun given => given.2.handle) stop
  refine ⟨congrArg Prod.fst stop, ?_⟩
  intro later after schedule
  obtain ⟨tracks, staffed⟩ := since.after later
  have same : schedule = (Schedule.initial.after before).after later :=
    Schedule.after_append _ _ _
  rw [← same] at tracks
  refine ⟨?_, ?_, tracks.agrees.pending tracks.settled, tracks.settled.orderly.booked.run, ?_⟩
  · rintro ⟨other, awaitable⟩ held rfl againMs
    have bound := since.hired _ handle
    have gone : stopped.2.timeline.ledger.hasEnded other = true := by
      have known : stopped.2.timeline.ledger.worker? other = _ := since.worker? handle
      simp [Ledger.hasEnded, known, Worker.gone]
    have awaited := tracks.awaited held (staffed.ended other bound gone)
    simp only at awaited
    subst awaited
    exact tracks.shutdown_stopped held againMs
  · exact since.run_silent (by rw [current, handle]; rfl)
  · intro history run
    refine ⟨?_, fun batch counted => tracks.agrees.settled_count tracks.settled run counted⟩
    rw [← run.accounted.next, tracks.agrees.next]

/-- Two batches are outstanding at the stop, and a timer is set for one of them. -/
def stopScript : List WorkerStep :=
  [.attach none, .attach none, .attach none, .resolve [(1, .failed .closed)],
    .resolveAfter 0 5 (.failed .dropped)]

/-- One comes by its timer, one is resolved, and one more is attached and resolved. -/
def stoppedScript : List WorkerStep :=
  [.sleep 5, .attach none, .shutdown 7, .resolve [(2, .failed .bufferFull), (3, .failed .closed)]]

theorem stops_at_once_outstanding :
    (Station.initial.after stopScript).handle = some ⟨0, true⟩ ∧
      ((Station.initial.after stopScript).step (.shutdown 0)).1 =
        ⟨.flag true, 2, 0, [.event (.workerLate 0 2) 2, .event .workerStuck 2]⟩ ∧
      ((Station.initial.after stopScript).step (.shutdown 3000)).1 =
        ⟨.flag true, 2, 0, [.event .workerDrained 2]⟩ ∧
      (((Station.initial.after stopScript).step (.shutdown 0)).2.after
        stoppedScript).timeline.pending = 0 := by
  have running : (Station.initial.after stopScript).handle = some ⟨0, true⟩ := by decide
  obtain ⟨hasty, since⟩ := stops_at_once stopScript 0 running 0
  obtain ⟨patient, -⟩ := stops_at_once stopScript 0 running 3000
  have pending : (Station.initial.after stopScript).timeline.pending = 2 := by decide
  have nowMs : (Station.initial.after stopScript).timeline.nowMs = 0 := by decide
  have none_left : (Schedule.initial.after
      (stopScript ++ .shutdown 0 :: stoppedScript)).unresolved = 0 := by decide
  rw [pending, nowMs] at hasty patient
  refine ⟨running, hasty, patient, ?_⟩
  rw [(since stoppedScript).2.2.1, none_left]
  rfl

end Station
end CheckpointSink.Settlement
