import CheckpointSink.Proofs.Settlement.Schedule

/-!
Whether a worker is there to take an outcome or not makes no difference to what becomes of it: every
script of a worker has the accounts of a schedule that knows nothing of workers.
-/

namespace CheckpointSink.Settlement

namespace Ledger

/-- A change of the workers that leaves their queues alone brings no outcomes. -/
theorem ran_restaffed {ledger later : Ledger} (pending : later.pending = ledger.pending)
    (entries : later.entries = ledger.entries) (batches : later.batches = ledger.batches)
    (queued : later.queued = ledger.queued) : Ran ledger [] later where
  account := by simp only [account, pending, entries, List.foldl_nil]
  underway := by simp [underway, batches, queued]

theorem ran_start (ledger : Ledger) : Ran ledger [] (ledger.attempts [.start]) := by
  have queued : ledger.start.queued = ledger.queued := by
    simp [Ledger.queued, Ledger.start, Worker.fresh]
  exact ran_restaffed rfl rfl rfl queued

theorem ran_restaff {ledger : Ledger} {worker : Nat} {old : Worker}
    (found : ledger.worker? worker = some old) (new : Worker) (same : new.queue = old.queue) {step : Step}
    (taken : ledger.step? step = some (ledger.setWorker worker new)) :
    Ran ledger [] (ledger.attempts [step]) := by
  have reached : ledger.attempts [step] = ledger.setWorker worker new := attempt_of_taken taken
  rw [reached]
  exact ran_restaffed rfl rfl rfl (queued_setWorker found same)

theorem ran_refused {ledger : Ledger} {step : Step} (refused : ledger.step? step = none) :
    Ran ledger [] (ledger.attempts [step]) := by
  have reached : ledger.attempts [step] = ledger := attempt_of_refused refused
  rw [reached]
  exact .refl ledger

theorem ran_release (ledger : Ledger) (worker : Nat) :
    Ran ledger [] (ledger.attempts [.release worker]) := by
  cases found : ledger.worker? worker with
  | none => exact ran_refused (by simp [step?, release, found])
  | some state =>
    exact ran_restaff found { state with senderHeld := false } rfl
      (by simp only [step?, release, found])

theorem ran_cancel (ledger : Ledger) (worker : Nat) :
    Ran ledger [] (ledger.attempts [.cancel worker]) := by
  cases found : ledger.worker? worker with
  | none => exact ran_refused (by simp [step?, cancel, found])
  | some state =>
    by_cases runs : state.task = .running
    · exact ran_restaff found { state with task := .cancelling } rfl
        (by simp [step?, cancel, found, runs])
    · exact ran_refused (by simp [step?, cancel, found, runs])

/-- To give up the channel of a worker and to cancel it are independent of each other. -/
theorem attempts_cancel_release (ledger : Ledger) (worker : Nat) :
    ledger.attempts [.cancel worker, .release worker] =
      ledger.attempts [.release worker, .cancel worker] := by
  cases found : ledger.worker? worker with
  | none => simp [attempts, attempt, step?, cancel, release, found]
  | some state =>
    have changed (new : Worker) : (ledger.setWorker worker new).worker? worker = some new :=
      worker?_setWorker found new
    have twice (first second : Worker) : (ledger.setWorker worker first).setWorker worker second =
        ledger.setWorker worker second := by
      simp [setWorker]
    by_cases runs : state.task = .running <;>
      simp [attempts, attempt, step?, cancel, release, found, changed, twice, runs]

end Ledger

namespace Timeline

section

variable {timeline : Timeline}

theorem ran_woken_staff (timeline : Timeline) {steps : List Step} {worker : Nat}
    (ran : timeline.ledger.Ran [] (timeline.ledger.attempts steps)) :
    Ran timeline [] ((timeline.perform steps).wake (.work worker)) := by
  have same := outcomes_wake (timeline.perform steps) (.work worker) rfl
  rw [wake_eq]
  refine ⟨ran.account, ?_, fun none => ⟨none, rfl⟩⟩
  show List.Perm _ (List.filterMap Task.outcome? _ ++ (timeline.ledger.attempts steps).underway)
  rw [same]
  exact ran.underway.append_left _

theorem ran_release (handle : WorkerHandle) (timeline : Timeline) :
    Ran timeline [] (handle.release timeline) :=
  ran_woken_staff timeline (Ledger.ran_release _ handle.worker)

theorem ran_cancel (handle : WorkerHandle) (timeline : Timeline) :
    Ran timeline [] (handle.cancel timeline) :=
  ran_woken_staff timeline (Ledger.ran_cancel _ handle.worker)

theorem ran_within (orderly : Orderly [] timeline) (still : timeline.underway = [])
    {handle : WorkerHandle} (leaving : Leaving handle.worker timeline) (graceMs : Nat) :
    Ran timeline [] (handle.within graceMs timeline) := by
  rw [within_eq leaving orderly]
  split
  · exact .refl timeline
  · exact orderly.ran_still still

theorem ran_stopLate (unqueued : Unqueued timeline) (still : timeline.underway = [])
    (handle : WorkerHandle) (graceMs : Nat)
    (hired : handle.worker < timeline.ledger.workers.length)
    (released : timeline.ledger.holdsSender handle.worker = false) :
    Ran timeline [] (handle.stopLate graceMs timeline) := by
  obtain ⟨after, kept⟩ :=
    (unqueued.enter (.workerLate (Event.reportedMs graceMs) timeline.pending)).cancel handle released
  have warned := timeline.ran_enter (.workerLate (Event.reportedMs graceMs) timeline.pending) rfl
  have cancelled := warned.trans (ran_cancel handle _)
  have waited := cancelled.trans (ran_within after.orderly (cancelled.still still)
    (leaving_cancel kept hired released) graceMs)
  rw [WorkerHandle.stopLate]
  split
  · exact waited
  · exact waited.trans (ran_enter _ _ rfl)

theorem ran_shutdown (unqueued : Unqueued timeline) (still : timeline.underway = [])
    (handle : WorkerHandle) (graceMs : Nat)
    (hired : handle.worker < timeline.ledger.workers.length) :
    Ran timeline [] (handle.shutdown graceMs timeline).2 := by
  have ran := ran_release handle timeline
  obtain ⟨released, kept⟩ := unqueued.release handle
  have leaving := leaving_release kept hired
  obtain ⟨after, keptWithin⟩ := released.within leaving graceMs
  have waited := ran.trans (ran_within released.orderly (ran.still still) leaving graceMs)
  have stays := Nat.lt_of_lt_of_le leaving.hired keptWithin.staffed.hired
  have shut := keptWithin.staffed.released handle.worker leaving.hired leaving.released
  unfold WorkerHandle.shutdown
  split
  · simp only
    split
    · exact waited
    · exact waited.trans (ran_stopLate after (waited.still still) handle graceMs stays shut)
  · exact ran

theorem perform_wake (timeline : Timeline) (task : Task) (steps : List Step) :
    (timeline.wake task).perform steps = (timeline.perform steps).wake task := by
  by_cases known : task ∈ timeline.ready <;> simp [wake, perform, known]

theorem wake_wake (timeline : Timeline) (task : Task) :
    (timeline.wake task).wake task = timeline.wake task := by
  have member : task ∈ (timeline.wake task).ready := mem_wake.mpr (.inr rfl)
  rw [wake, if_pos member]

/-- A worker that is dropped gives up its channel before it is cancelled, or after. -/
theorem release_cancel (handle : WorkerHandle) (timeline : Timeline) :
    handle.release (handle.cancel timeline) = handle.cancel (handle.release timeline) := by
  have same := timeline.ledger.attempts_cancel_release handle.worker
  simp only [WorkerHandle.release, WorkerHandle.cancel, perform_wake, wake_wake]
  simp only [perform]
  rw [show (timeline.ledger.attempts [.cancel handle.worker]).attempts [.release handle.worker] =
    (timeline.ledger.attempts [.release handle.worker]).attempts [.cancel handle.worker] from same]

theorem Unqueued.drop (unqueued : Unqueued timeline) (handle : WorkerHandle) :
    Unqueued (handle.drop timeline) ∧ Kept timeline (handle.drop timeline) := by
  obtain ⟨released, kept⟩ := unqueued.release handle
  obtain ⟨cancelled, keptCancel⟩ := released.cancel handle (holdsSender_release handle timeline)
  unfold WorkerHandle.drop
  split
  · rw [release_cancel]
    exact ⟨cancelled, kept.trans keptCancel⟩
  · exact ⟨released, kept⟩

theorem ran_drop (handle : WorkerHandle) (timeline : Timeline) :
    Ran timeline [] (handle.drop timeline) := by
  unfold WorkerHandle.drop
  split
  · exact (ran_cancel handle timeline).trans (ran_release handle _)
  · exact ran_release handle timeline

theorem Unqueued.start (unqueued : Unqueued timeline) :
    Unqueued (WorkerHandle.start timeline).2 := by
  refine ⟨unqueued.orderly.start.1, fun worker => ?_⟩
  simp only [WorkerHandle.start]
  rw [wake_eq]
  exact (Ledger.queue_start timeline.ledger worker).trans (unqueued.queues worker)

/-! Batches -/

variable {workers : Nat} {schedule : Schedule} {account : Account} {failures : List Event}

theorem submit_eq (booked : timeline.ledger.Booked) (idle : timeline.ready = []) {worker : Nat}
    {state : Worker} (found : timeline.ledger.worker? worker = some state)
    (delivered : Option Outcome) :
    timeline.submit delivered worker = { timeline with
      ledger := { timeline.ledger with
        pending := timeline.ledger.pending + 1
        next := timeline.ledger.next + 1
        batches := timeline.ledger.batches ++ [⟨timeline.ledger.next, delivered,
          .waiting (if state.senderHeld then some worker else none)⟩] }
      ready := [.forward timeline.ledger.next] } := by
  simp only [Timeline.submit, perform, Ledger.attempts_submit booked.fresh found, wake, idle,
    List.not_mem_nil, if_false, List.nil_append]

theorem underway_submit (orderly : Orderly [] timeline) (idle : timeline.ready = [])
    {worker : Nat} {state : Worker} (found : timeline.ledger.worker? worker = some state)
    (delivered : Option Outcome) :
    (timeline.submit delivered worker).underway = delivered.toList := by
  have still := orderly.underway_of_idle idle
  obtain ⟨batches, queued⟩ := List.append_eq_nil_iff.mp (List.append_eq_nil_iff.mp still).2
  have kept : List.map Prod.snd (List.map Worker.queue timeline.ledger.workers).flatten = [] := queued
  rw [submit_eq orderly.booked idle found]
  cases delivered <;>
    simp only [underway, Ledger.underway, Ledger.queued, List.filterMap_append, batches, kept] <;> rfl

theorem Follows.worker? (follows : Follows workers schedule account timeline) {worker : Nat}
    (hired : worker < workers) : ∃ state, timeline.ledger.worker? worker = some state :=
  ⟨_, List.getElem?_eq_getElem (Nat.lt_of_lt_of_le hired follows.hired)⟩

/-- The account of a timeline that counts another batch. -/
theorem Follows.counted (follows : Follows workers schedule ⟨schedule.unresolved, failures⟩ timeline) :
    (⟨timeline.ledger.pending + 1, CheckpointSink.failures timeline.ledger.entries.reverse⟩ :
      Account) = ⟨(schedule.unresolved + 1 : Nat), failures⟩ := by
  have account := follows.account
  rw [Timeline.account, Ledger.account, Account.mk.injEq] at account
  rw [account.1, account.2]
  rfl

/-- A batch that is submitted is counted, whoever holds the resolvers then. -/
theorem Follows.submitted (follows : Follows workers schedule ⟨schedule.unresolved, failures⟩ timeline)
    (idle : timeline.ready = []) {worker : Nat} {state : Worker}
    (found : timeline.ledger.worker? worker = some state) {delivered : Option Outcome}
    {held : List Nat} {later : Timeline} (orderly : Orderly [] later)
    (same : later = { timeline.submit delivered worker with resolvers := held }) :
    Follows workers { schedule with next := schedule.next + 1, held }
      ⟨(schedule.unresolved + 1 : Nat), failures⟩ later := by
  rw [submit_eq follows.orderly.booked idle found] at same
  subst same
  exact ⟨orderly, follows.waits, follows.nowMs, congrArg (· + 1) follows.next, rfl, follows.timers,
    ⟨follows.ordered.apart, follows.ordered.ahead⟩, follows.hired, follows.counted⟩

/-- A batch whose outcome is not there yet is counted, and its resolver can be used. -/
theorem Follows.attachOpen (follows : Follows workers schedule ⟨schedule.unresolved, failures⟩ timeline)
    (idle : timeline.ready = []) {worker : Nat} (hired : worker < workers) :
    Delivers workers ⟨(schedule.unresolved + 1 : Nat), failures⟩
      ([], { schedule with next := schedule.next + 1, held := schedule.held ++ [schedule.next] }) []
      ((timeline.submit none worker).addResolver timeline.ledger.next).runReady := by
  obtain ⟨state, found⟩ := follows.worker? hired
  have same : (timeline.submit none worker).addResolver timeline.ledger.next =
      { timeline.submit none worker with resolvers := schedule.held ++ [schedule.next] } := by
    rw [submit_eq follows.orderly.booked idle found, ← follows.resolvers, ← follows.next]
    rfl
  have more : Schedule.unresolved { schedule with
      next := schedule.next + 1, held := schedule.held ++ [schedule.next] } =
        schedule.unresolved + 1 := by
    simp only [Schedule.unresolved, List.length_append, List.length_singleton]
    omega
  have orderly := (follows.orderly.submit found none).1.addResolver
  obtain ⟨after, still⟩ := (follows.submitted idle found orderly same).still
    (underway_submit follows.orderly idle found none)
  rw [← more] at after ⊢
  exact .nothing after still

/-- A batch whose outcome is there is counted before the outcome is settled. -/
theorem Follows.attachResolved
    (follows : Follows workers schedule ⟨schedule.unresolved, failures⟩ timeline)
    (idle : timeline.ready = []) {worker : Nat} (hired : worker < workers) (outcome : Outcome) :
    Delivers workers ⟨(schedule.unresolved + 1 : Nat), failures⟩
      ([outcome], { schedule with next := schedule.next + 1 })
      [(timeline.submit (some outcome) worker).runReady]
      (timeline.submit (some outcome) worker).runReady := by
  obtain ⟨state, found⟩ := follows.worker? hired
  have same : timeline.submit (some outcome) worker =
      { timeline.submit (some outcome) worker with resolvers := schedule.held } := by
    rw [submit_eq follows.orderly.booked idle found, ← follows.resolvers]
  have orderly := (follows.orderly.submit found (some outcome)).1
  obtain ⟨after, still⟩ := (follows.submitted idle found orderly same).single
    (underway_submit follows.orderly idle found (some outcome)) (by simp)
  have delivers := Delivers.next rfl after fun others => .nothing others still
  exact delivers

end

end Timeline

/-! Stations -/

def WorkerReport.account (report : WorkerReport) : Account :=
  ⟨report.pending, failures report.entries⟩

def WorkerStep.isShutdown : WorkerStep → Bool
  | shutdown _ => true
  | _ => false

namespace Station

/-- The timelines of a step after each outcome that came in it, when all tasks that could run had
run. -/
def moments (station : Station) (action : WorkerStep) : List Timeline :=
  let timeline := station.timeline.clearEntries
  match action, station.handle with
  | .attach (some outcome), some handle => [(handle.submit (some outcome) timeline).runReady]
  | .resolve outcomes, _ => timeline.usings outcomes
  | .resolveAfter batch delayMs outcome, _ =>
    if timeline.hasResolver batch then
      ((timeline.removeResolver batch).setTimer delayMs (.deliver batch outcome)).passings 0
    else []
  | .sleep delayMs, _ => timeline.passings (Sleep.lengthMs delayMs)
  | _, _ => []

/-- The accounts of a script: in each of its steps after each outcome, and as the step reports it. -/
def accounts (station : Station) : List WorkerStep → List (List Account × Account)
  | [] => []
  | first :: rest =>
    let stepped := station.step first
    ((station.moments first).map Timeline.account, stepped.1.account) :: accounts stepped.2 rest

/-- A station between two steps, with the worker in hand that its schedule knows of. -/
structure OnSchedule (schedule : Schedule) (station : Station) : Prop where
  follows : ∃ failures, Timeline.Follows station.timeline.ledger.workers.length schedule
    ⟨schedule.unresolved, failures⟩ station.timeline
  idle : station.timeline.ready = []
  staffed : schedule.staffed = station.handle.isSome
  hired : ∀ handle, station.handle = some handle →
    handle.worker < station.timeline.ledger.workers.length

open Timeline

variable {schedule : Schedule} {station : Station}

theorem OnSchedule.of_delivers {workers : Nat} {begun : Account}
    {expected : List Outcome × Schedule} {moments : List Timeline} {timeline : Timeline}
    {handle : Option WorkerHandle} (delivers : Delivers workers begun expected moments timeline)
    (staffed : expected.2.staffed = handle.isSome)
    (hired : ∀ held, handle = some held → held.worker < workers) :
    OnSchedule expected.2 ⟨timeline, handle⟩ where
  follows := ⟨_, { delivers.follows with hired := le_rfl }⟩
  idle := delivers.idle
  staffed := staffed
  hired held same := Nat.lt_of_lt_of_le (hired held same) delivers.follows.hired

/-- The entries of earlier steps are no longer looked at. -/
theorem OnSchedule.cleared (on : OnSchedule schedule station) :
    Follows station.timeline.ledger.workers.length schedule ⟨schedule.unresolved, []⟩
      station.timeline.clearEntries := by
  obtain ⟨failures, follows⟩ := on.follows
  exact
    { orderly :=
        { booked := follows.orderly.booked.clear
          resting := follows.orderly.resting.reported _ _
          forwards := follows.orderly.forwards
          works := follows.orderly.works
          custody := follows.orderly.custody
          waits := follows.orderly.waits }
      waits := follows.waits
      nowMs := follows.nowMs
      next := follows.next
      resolvers := follows.resolvers
      timers := follows.timers
      ordered := follows.ordered
      hired := follows.hired
      account := congrArg₂ Account.mk (congrArg Account.pending follows.account) rfl }

/-- A step of a station makes of its outcomes what the schedule says. -/
structure Obeys (schedule : Schedule) (station : Station) (action : WorkerStep) : Prop where
  moments : (station.moments action).map Timeline.account =
    (schedule.begun action).course (schedule.step action).1
  report : (station.step action).1.account =
    ⟨(schedule.step action).2.unresolved, (schedule.step action).1.filterMap Outcome.report?⟩
  after : OnSchedule (schedule.step action).2 (station.step action).2

theorem Obeys.of_delivers {action : WorkerStep} {timeline : Timeline}
    {handle : Option WorkerHandle} (reached : (station.step action).2 = ⟨timeline, handle⟩)
    {workers : Nat} (delivers : Delivers workers (schedule.begun action) (schedule.step action)
      (station.moments action) timeline)
    (staffed : (schedule.step action).2.staffed = handle.isSome)
    (hired : ∀ held, handle = some held → held.worker < workers) :
    Obeys schedule station action where
  moments := delivers.moments
  report := by
    have reported := delivers.follows.account
    have clear : (schedule.begun action).failures = [] := by cases action <;> rfl
    rw [clear, List.nil_append] at reported
    show (station.step action).2.timeline.account = _
    rw [reached]
    exact reported
  after := reached ▸ .of_delivers delivers staffed hired

/-- A step that leaves the worker in hand alone, and nothing to be done. -/
theorem OnSchedule.obeys (on : OnSchedule schedule station) {action : WorkerStep}
    {answer : WorkerAnswer} {timeline : Timeline}
    (performed : perform { station with timeline := station.timeline.clearEntries } action =
      (answer, { station with timeline }))
    (delivers : Delivers station.timeline.ledger.workers.length (schedule.begun action)
      (schedule.step action) (station.moments action) timeline)
    (staffed : (schedule.step action).2.staffed = schedule.staffed) :
    Obeys schedule station action := by
  have reached : (station.step action).2 = { station with timeline } := by
    simp only [Station.step, performed, runReady_idle delivers.idle]
  exact .of_delivers reached delivers (staffed.trans on.staffed) on.hired

/-- A step in which nothing but the worker in hand changes. -/
theorem OnSchedule.restaffed (on : OnSchedule schedule station) {action : WorkerStep}
    {answer : WorkerAnswer} {timeline : Timeline} {handle : Option WorkerHandle}
    (performed : perform { station with timeline := station.timeline.clearEntries } action =
      (answer, ⟨timeline, handle⟩))
    (begun : schedule.begun action = ⟨schedule.unresolved, []⟩)
    (stepped : schedule.step action = ([], { schedule with staffed := handle.isSome }))
    (none_come : station.moments action = [])
    (orderly : Orderly [] timeline) (kept : Kept station.timeline.clearEntries timeline)
    (ran : Ran station.timeline.clearEntries [] timeline)
    (hired : ∀ held, handle = some held → held.worker < timeline.ledger.workers.length) :
    Obeys schedule station action := by
  have still := ran.still (on.cleared.orderly.underway_of_idle on.idle)
  have follows := on.cleared.ran orderly kept ran
  have restaffed : Follows timeline.ledger.workers.length { schedule with staffed := handle.isSome }
      ⟨schedule.unresolved, []⟩ timeline :=
    { follows with
      ordered := ⟨follows.ordered.apart, follows.ordered.ahead⟩
      hired := le_rfl }
  obtain ⟨after, idle⟩ := restaffed.still still
  have reached : (station.step action).2 = ⟨timeline.runReady, handle⟩ := by
    simp only [Station.step, performed]
  have delivers : Delivers timeline.ledger.workers.length (schedule.begun action)
      (schedule.step action) (station.moments action) timeline.runReady := by
    have nothing := Delivers.nothing after idle
    rw [begun, stepped, none_come]
    exact nothing
  exact .of_delivers reached delivers (by rw [stepped]) hired

/-- A step that finds no worker in hand. -/
theorem OnSchedule.unstaffed (on : OnSchedule schedule station) {action : WorkerStep}
    {answer : WorkerAnswer}
    (performed : perform { station with timeline := station.timeline.clearEntries } action =
      (answer, { station with timeline := station.timeline.clearEntries }))
    (begun : schedule.begun action = ⟨schedule.unresolved, []⟩)
    (stepped : schedule.step action = ([], schedule)) (none_come : station.moments action = []) :
    Obeys schedule station action := by
  refine on.obeys performed ?_ (by rw [stepped])
  rw [begun, stepped, none_come]
  exact .nothing on.cleared on.idle

theorem OnSchedule.attach (on : OnSchedule schedule station) (delivered : Option Outcome) :
    Obeys schedule station (.attach delivered) := by
  obtain ⟨timeline, handle⟩ := station
  have idle : timeline.clearEntries.ready = [] := on.idle
  cases handle with
  | none =>
    have staffed : schedule.staffed = false := on.staffed
    exact on.unstaffed rfl (by simp [Schedule.begun, staffed]) (by simp [Schedule.step, staffed])
      (by cases delivered <;> rfl)
  | some handle =>
    have staffed : schedule.staffed = true := on.staffed
    have begun : schedule.begun (.attach delivered) = ⟨(schedule.unresolved + 1 : Nat), []⟩ := by
      simp [Schedule.begun, staffed]
    have hired := on.hired handle rfl
    cases delivered with
    | none =>
      have same : schedule.step (.attach none) = ([], { schedule with
          next := schedule.next + 1, held := schedule.held ++ [schedule.next] }) := by
        simp [Schedule.step, staffed]
      have delivers := on.cleared.attachOpen idle hired
      rw [← begun, ← same] at delivers
      exact .of_delivers rfl delivers (same ▸ staffed) on.hired
    | some outcome =>
      have same : schedule.step (.attach (some outcome)) =
          ([outcome], { schedule with next := schedule.next + 1 }) := by
        simp [Schedule.step, staffed]
      have delivers := on.cleared.attachResolved idle hired outcome
      rw [← begun, ← same] at delivers
      exact .of_delivers rfl delivers (same ▸ staffed) on.hired

theorem OnSchedule.resolve (on : OnSchedule schedule station) (outcomes : List (Nat × Outcome)) :
    Obeys schedule station (.resolve outcomes) :=
  on.obeys rfl (on.cleared.resolveAll on.idle outcomes) (schedule.staffed_use outcomes)

theorem OnSchedule.resolveAfter (on : OnSchedule schedule station) {batch delayMs : Nat}
    {outcome : Outcome} (apart : schedule.isApart (.resolveAfter batch delayMs outcome) = true) :
    Obeys schedule station (.resolveAfter batch delayMs outcome) := by
  have same : batch ∈ station.timeline.clearEntries.resolvers ↔ batch ∈ schedule.held := by
    rw [on.cleared.resolvers]
  by_cases held : batch ∈ schedule.held
  · have known := hasResolver_iff.mpr (same.mpr held)
    have free : schedule.isFree (schedule.appointment batch delayMs outcome) = true := by
      simpa [Schedule.isApart, held] using apart
    have stepped : schedule.step (.resolveAfter batch delayMs outcome) =
        (schedule.appoint (schedule.appointment batch delayMs outcome)).elapse schedule.nowMs := by
      simp only [Schedule.step, if_pos held]
    refine on.obeys (by simp only [Station.perform, Timeline.resolveAfter, if_pos known]; rfl) ?_
      (by rw [stepped]; rfl)
    rw [stepped]
    simp only [moments, if_pos known]
    exact on.cleared.resolveAfter on.idle held free
  · have unknown := mt hasResolver_iff.mp (mt same.mp held)
    exact on.unstaffed (by simp only [Station.perform, Timeline.resolveAfter, if_neg unknown]; rfl) rfl
      (by simp only [Schedule.step, if_neg held]) (by simp only [moments, if_neg unknown])

theorem OnSchedule.sleep (on : OnSchedule schedule station) (delayMs : Nat) :
    Obeys schedule station (.sleep delayMs) :=
  on.obeys rfl (on.cleared.pass on.idle (Sleep.lengthMs delayMs)) rfl

theorem OnSchedule.shutdown (on : OnSchedule schedule station) (graceMs : Nat) :
    Obeys schedule station (.shutdown graceMs) := by
  obtain ⟨timeline, handle⟩ := station
  cases handle with
  | none => exact on.unstaffed rfl rfl rfl rfl
  | some handle =>
    have staffed : schedule.staffed = true := on.staffed
    have unqueued := on.cleared.orderly.unqueued on.idle
    have still := on.cleared.orderly.underway_of_idle on.idle
    have hired := on.hired handle rfl
    obtain ⟨orderly, kept⟩ := unqueued.shutdown handle graceMs hired
    have same : (handle.shutdown graceMs timeline.clearEntries).1.worker = handle.worker := by
      unfold WorkerHandle.shutdown
      split <;> rfl
    refine on.restaffed rfl rfl (by simp [Schedule.step, ← staffed]) rfl orderly kept
      (ran_shutdown unqueued still handle graceMs hired) ?_
    intro held this
    rw [← Option.some.inj this, same]
    exact Nat.lt_of_lt_of_le hired kept.staffed.hired

theorem OnSchedule.drop (on : OnSchedule schedule station) : Obeys schedule station .drop := by
  obtain ⟨timeline, handle⟩ := station
  cases handle with
  | none =>
    have staffed : schedule.staffed = false := on.staffed
    exact on.unstaffed rfl rfl (by simp [Schedule.step, ← staffed]) rfl
  | some handle =>
    obtain ⟨dropped, kept⟩ := (on.cleared.orderly.unqueued on.idle).drop handle
    have ran := ran_drop handle timeline.clearEntries
    refine on.restaffed rfl rfl ?_ rfl dropped.orderly kept ran ?_
    · rfl
    · intro held this
      cases this

theorem OnSchedule.start (on : OnSchedule schedule station) : Obeys schedule station .start := by
  obtain ⟨timeline, handle⟩ := station
  have unqueued := on.cleared.orderly.unqueued on.idle
  obtain ⟨orderly, kept, hired⟩ := on.cleared.orderly.start
  have ran : Ran timeline.clearEntries [] (WorkerHandle.start timeline.clearEntries).2 :=
    ran_woken_staff timeline.clearEntries (Ledger.ran_start _)
  cases handle with
  | none =>
    refine on.restaffed rfl rfl rfl rfl orderly kept ran ?_
    intro held this
    rw [← Option.some.inj this]
    exact hired
  | some handle =>
    obtain ⟨dropped, keptDrop⟩ := unqueued.start.drop handle
    refine on.restaffed rfl rfl rfl rfl dropped.orderly (kept.trans keptDrop)
      (ran.trans (ran_drop handle _)) ?_
    intro held this
    rw [← Option.some.inj this]
    exact Nat.lt_of_lt_of_le hired keptDrop.staffed.hired

theorem OnSchedule.step (on : OnSchedule schedule station) {action : WorkerStep}
    (apart : schedule.isApart action = true) : Obeys schedule station action := by
  cases action with
  | attach delivered => exact on.attach delivered
  | resolve outcomes => exact on.resolve outcomes
  | resolveAfter => exact on.resolveAfter apart
  | sleep delayMs => exact on.sleep delayMs
  | shutdown graceMs => exact on.shutdown graceMs
  | drop => exact on.drop
  | start => exact on.start

/-- A whole script makes of its outcomes what the schedule says. -/
theorem OnSchedule.accounts (on : OnSchedule schedule station) {script : List WorkerStep}
    (spaced : schedule.isSpaced script = true) :
    station.accounts script = schedule.accounts script := by
  induction script generalizing schedule station with
  | nil => rfl
  | cons first rest ih =>
    obtain ⟨apart, others⟩ := Bool.and_eq_true_iff.mp spaced
    have obeyed := on.step apart
    rw [Station.accounts, Schedule.accounts, obeyed.moments, obeyed.report, ih obeyed.after others]

theorem onSchedule_empty : OnSchedule ⟨false, 0, 0, [], []⟩ ⟨.empty, none⟩ where
  follows := ⟨[],
    { orderly := settled_empty.orderly
      waits := rfl
      nowMs := rfl
      next := rfl
      resolvers := rfl
      timers := .refl _
      ordered := ⟨.nil, by simp⟩
      hired := le_rfl
      account := rfl }⟩
  idle := rfl
  staffed := rfl
  hired := by simp

theorem onSchedule_initial : OnSchedule .initial .initial :=
  onSchedule_empty.start.after

end Station

namespace Schedule

/-- A schedule does not know of the stop of a worker. -/
theorem accounts_unstopped (schedule : Schedule) (script : List WorkerStep) :
    schedule.accounts (script.filter fun action => !action.isShutdown) =
      ((script.zip (schedule.accounts script)).filter fun given => !given.1.isShutdown).map
        Prod.snd := by
  induction script generalizing schedule with
  | nil => rfl
  | cons first rest ih =>
    cases first with
    | shutdown graceMs => exact ih schedule
    | _ => exact congrArg (List.cons _) (ih _)

theorem isSpaced_unstopped (schedule : Schedule) (script : List WorkerStep) :
    schedule.isSpaced (script.filter fun action => !action.isShutdown) =
      schedule.isSpaced script := by
  induction script generalizing schedule with
  | nil => rfl
  | cons first rest ih =>
    cases first with
    | shutdown graceMs => exact ih schedule
    | _ => exact congrArg (_ && ·) (ih _)

end Schedule

namespace Station

/-- Whatever becomes of its workers, a script of a station has the accounts of its schedule, which
knows nothing of them: each outcome that comes takes one batch off the count, and is reported if and
only if it is a failure. To leave out the stops of workers changes nothing in any other step. -/
theorem accounts_of_schedule (script : List WorkerStep)
    (spaced : Schedule.initial.isSpaced script = true) :
    initial.accounts script = Schedule.initial.accounts script ∧
      initial.accounts (script.filter fun action => !action.isShutdown) =
        ((script.zip (initial.accounts script)).filter fun given => !given.1.isShutdown).map
          Prod.snd := by
  have whole := onSchedule_initial.accounts spaced
  have unstopped := (Schedule.initial.isSpaced_unstopped script).trans spaced
  refine ⟨whole, ?_⟩
  rw [onSchedule_initial.accounts unstopped, whole]
  exact Schedule.initial.accounts_unstopped script

/-- Outcomes come by a live worker, after its stop and after the start of another. -/
def restaffedScript : List WorkerStep :=
  [.attach none, .attach none, .attach (some (.failed .closed)),
    .resolveAfter 0 5 (.failed .dropped), .shutdown 0,
    .attach (some (.answered (.failure 2 "code" "text"))), .shutdown 10, .start, .attach none,
    .resolveAfter 4 3 (.answered (.success 1)), .sleep 10, .resolve [(1, .failed .bufferFull)],
    .drop, .attach none]

theorem accounts_of_schedule_restaffed :
    Schedule.initial.isSpaced restaffedScript = true ∧
      (initial.accounts restaffedScript).map Prod.snd =
        [⟨1, []⟩, ⟨2, []⟩, ⟨2, [.batchFailed .closed]⟩, ⟨2, []⟩, ⟨2, []⟩,
          ⟨2, [.batchRefused "code" "text" 2]⟩, ⟨2, []⟩, ⟨2, []⟩, ⟨3, []⟩, ⟨3, []⟩,
          ⟨1, [.batchFailed .dropped]⟩, ⟨0, [.batchFailed .bufferFull]⟩, ⟨0, []⟩, ⟨0, []⟩] := by
  have spaced : Schedule.initial.isSpaced restaffedScript = true := by decide
  refine ⟨spaced, ?_⟩
  rw [(accounts_of_schedule restaffedScript spaced).1]
  decide

/-- At one and the same time an outcome without a worker overtakes one that its worker is given. -/
example : (initial.accounts [.attach none, .shutdown 0, .start, .attach none,
    .resolveAfter 1 5 (.failed .closed), .resolveAfter 0 5 (.failed .dropped), .sleep 5]).map
      (fun given => given.2.failures) =
    [[], [], [], [], [], [], [.batchFailed .dropped, .batchFailed .closed]] := by
  decide +kernel

end Station

end CheckpointSink.Settlement
