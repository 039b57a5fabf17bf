import CheckpointSink.Proofs.Settlement.Callbacks
import CheckpointSink.Proofs.Settlement.Staff
import CheckpointSink.Settlement.Script

/-!
What a script of a worker brings about if nobody looks at the worker: the outcomes that come, in
which order, and how many are still to come. A timeline follows such a schedule when it has the same
resolvers and the same outcomes to come; then it makes of every outcome what the schedule says.
-/

namespace CheckpointSink

namespace Account

/-- The account after an outcome that was counted. -/
def after (account : Account) (outcome : Outcome) : Account :=
  ⟨account.pending - 1, account.failures ++ outcome.report?.toList⟩

/-- The accounts after each of some outcomes. -/
def course (account : Account) : List Outcome → List Account
  | [] => []
  | outcome :: rest => account.after outcome :: (account.after outcome).course rest

theorem after_of_fewer {count fewer : Nat} (one : fewer + 1 = count) {failures : List Event}
    {outcome : Outcome} : after ⟨count, failures⟩ outcome =
      ⟨fewer, failures ++ outcome.report?.toList⟩ := by
  simp [after, ← one]

end Account

namespace Settlement

/-- An outcome whose resolver is used at a later time. -/
structure Appointment where
  dueMs : Nat
  batch : Nat
  outcome : Outcome
  deriving DecidableEq

def Appointment.timer (appointment : Appointment) : Timer :=
  ⟨appointment.dueMs, .deliver appointment.batch appointment.outcome⟩

/-- What can be known of a script without a look at its workers. -/
structure Schedule where
  /-- There is a worker in hand, whatever has become of it. -/
  staffed : Bool
  nowMs : Nat
  /-- The number of the next batch. -/
  next : Nat
  /-- The batches whose resolvers can still be used. -/
  held : List Nat
  /-- The earliest first. -/
  coming : List Appointment
  deriving DecidableEq

namespace Schedule

def initial : Schedule := ⟨true, 0, 0, [], []⟩

/-- The number of batches whose outcomes are still to come. -/
def unresolved (schedule : Schedule) : Nat :=
  schedule.held.length + schedule.coming.length

def use (schedule : Schedule) : List (Nat × Outcome) → List Outcome × Schedule
  | [] => ([], schedule)
  | (batch, outcome) :: rest =>
    if batch ∈ schedule.held then
      let others := use { schedule with held := schedule.held.erase batch } rest
      (outcome :: others.1, others.2)
    else use schedule rest

def appoint (schedule : Schedule) (appointment : Appointment) : Schedule :=
  { schedule with
    held := schedule.held.erase appointment.batch
    coming := schedule.coming.filter (fun other => other.dueMs ≤ appointment.dueMs) ++
      appointment :: schedule.coming.filter fun other => ¬other.dueMs ≤ appointment.dueMs }

/-- Time moves on, and the outcomes that are due come. -/
def elapse (schedule : Schedule) (untilMs : Nat) : List Outcome × Schedule :=
  ((schedule.coming.takeWhile fun appointment => appointment.dueMs ≤ untilMs).map
      Appointment.outcome,
    { schedule with
      nowMs := untilMs
      coming := schedule.coming.dropWhile fun appointment => appointment.dueMs ≤ untilMs })

/-- A resolver that is taken now, and when it will be used. -/
def appointment (schedule : Schedule) (batch delayMs : Nat) (outcome : Outcome) : Appointment :=
  ⟨schedule.nowMs + Sleep.lengthMs delayMs, batch, outcome⟩

/-- The outcomes that come in a step, and the schedule after it. -/
def step (schedule : Schedule) : WorkerStep → List Outcome × Schedule
  | .attach delivered =>
    match schedule.staffed, delivered with
    | false, _ => ([], schedule)
    | true, none => ([], { schedule with
        next := schedule.next + 1, held := schedule.held ++ [schedule.next] })
    | true, some outcome => ([outcome], { schedule with next := schedule.next + 1 })
  | .resolve outcomes => schedule.use outcomes
  | .resolveAfter batch delayMs outcome =>
    if batch ∈ schedule.held then
      (schedule.appoint (schedule.appointment batch delayMs outcome)).elapse schedule.nowMs
    else ([], schedule)
  | .sleep delayMs => schedule.elapse (schedule.nowMs + Sleep.lengthMs delayMs)
  | .shutdown _ => ([], schedule)
  | .drop => ([], { schedule with staffed := false })
  | .start => ([], { schedule with staffed := true })

/-- The account once the batch of a step is counted, before any outcome comes. -/
def begun (schedule : Schedule) : WorkerStep → Account
  | .attach _ => ⟨if schedule.staffed then schedule.unresolved + 1 else schedule.unresolved, []⟩
  | _ => ⟨schedule.unresolved, []⟩

/-- The accounts of a script: in each of its steps after each outcome, and at the end of the step. -/
def accounts (schedule : Schedule) : List WorkerStep → List (List Account × Account)
  | [] => []
  | first :: rest =>
    let stepped := schedule.step first
    ((schedule.begun first).course stepped.1,
      ⟨stepped.2.unresolved, stepped.1.filterMap Outcome.report?⟩) :: accounts stepped.2 rest

/-- No other outcome comes at the time of an appointment. -/
def isFree (schedule : Schedule) (appointment : Appointment) : Bool :=
  schedule.coming.all fun other => other.dueMs ≠ appointment.dueMs

/-- What a step sets to come has a time of its own. -/
def isApart (schedule : Schedule) : WorkerStep → Bool
  | .resolveAfter batch delayMs outcome =>
    !schedule.held.contains batch || schedule.isFree (schedule.appointment batch delayMs outcome)
  | _ => true

/-- No two outcomes of a script come at the same time, so that whatever follows from one has happened
before another comes. -/
def isSpaced (schedule : Schedule) : List WorkerStep → Bool
  | [] => true
  | first :: rest => schedule.isApart first && isSpaced (schedule.step first).2 rest

theorem staffed_use (schedule : Schedule) (outcomes : List (Nat × Outcome)) :
    (schedule.use outcomes).2.staffed = schedule.staffed := by
  induction outcomes generalizing schedule with
  | nil => rfl
  | cons given rest ih =>
    rw [use]
    split
    · exact ih _
    · exact ih schedule

/-- The outcomes to come have times of their own, none of them over. -/
structure Ordered (schedule : Schedule) : Prop where
  apart : schedule.coming.Pairwise fun first second => first.dueMs < second.dueMs
  ahead : ∀ appointment ∈ schedule.coming, schedule.nowMs ≤ appointment.dueMs

theorem Ordered.rest {schedule : Schedule} (ordered : schedule.Ordered) {first : Appointment}
    {rest : List Appointment} (coming : schedule.coming = first :: rest) :
    Ordered { schedule with nowMs := first.dueMs, coming := rest } := by
  have apart := ordered.apart
  rw [coming] at apart
  obtain ⟨after, others⟩ := List.pairwise_cons.mp apart
  exact ⟨others, fun other member => (after other member).le⟩

theorem elapse_cons {schedule : Schedule} {first : Appointment} {rest : List Appointment}
    (coming : schedule.coming = first :: rest) {untilMs : Nat} (due : first.dueMs ≤ untilMs) :
    schedule.elapse untilMs =
      let others := elapse { schedule with nowMs := first.dueMs, coming := rest } untilMs
      (first.outcome :: others.1, others.2) := by
  simp [elapse, coming, due]

theorem elapse_none {schedule : Schedule} {untilMs : Nat}
    (later : ∀ appointment ∈ schedule.coming, untilMs < appointment.dueMs) :
    schedule.elapse untilMs = ([], { schedule with nowMs := untilMs }) := by
  cases coming : schedule.coming with
  | nil => simp [elapse, coming]
  | cons first rest =>
    have late : ¬first.dueMs ≤ untilMs := by
      have after := later first (by simp [coming])
      omega
    simp [elapse, coming, late]

/-- An appointment takes the place that its time gives it. -/
theorem Ordered.appoint {schedule : Schedule} (ordered : schedule.Ordered)
    {appointment : Appointment} (since : schedule.nowMs ≤ appointment.dueMs)
    (free : schedule.isFree appointment = true) : (schedule.appoint appointment).Ordered := by
  have apart : ∀ other ∈ schedule.coming, other.dueMs ≠ appointment.dueMs := by
    simpa [isFree] using free
  constructor
  · refine List.pairwise_append.mpr ⟨ordered.apart.filter _,
      List.pairwise_cons.mpr ⟨?_, ordered.apart.filter _⟩, ?_⟩
    · intro other member
      simpa using (List.mem_filter.mp member).2
    · intro before earlier after later
      obtain ⟨known, soon⟩ := List.mem_filter.mp earlier
      have soon : before.dueMs ≤ appointment.dueMs := by simpa using soon
      have other := apart before known
      rcases List.mem_cons.mp later with rfl | member
      · omega
      · have late : appointment.dueMs < after.dueMs := by simpa using (List.mem_filter.mp member).2
        omega
  · intro other member
    rcases List.mem_append.mp member with old | new
    · exact ordered.ahead other (List.mem_filter.mp old).1
    · rcases List.mem_cons.mp new with rfl | old
      · exact since
      · exact ordered.ahead other (List.mem_filter.mp old).1

theorem coming_appoint_perm (schedule : Schedule) (appointment : Appointment) :
    (schedule.appoint appointment).coming.Perm (appointment :: schedule.coming) := by
  have halves := List.filter_append_perm
    (fun other : Appointment => decide (other.dueMs ≤ appointment.dueMs)) schedule.coming
  simp only [appoint, decide_not]
  exact List.perm_middle.trans (halves.cons appointment)

theorem unresolved_appoint {schedule : Schedule} {appointment : Appointment}
    (held : appointment.batch ∈ schedule.held) :
    (schedule.appoint appointment).unresolved = schedule.unresolved := by
  have some_held := List.length_pos_of_mem held
  have moved := (schedule.coming_appoint_perm appointment).length_eq
  simp only [unresolved, moved, List.length_cons]
  simp only [appoint, List.length_erase_of_mem held]
  omega

end Schedule

namespace Timeline

/-- The timelines after each of the times at which something is due. -/
def firings : Nat → Nat → Timeline → List Timeline
  | 0, _, _ => []
  | deadlines + 1, untilMs, timeline =>
    match timeline.nextDeadline? untilMs with
    | none => []
    | some deadlineMs =>
      timeline.fire deadlineMs :: firings deadlines untilMs (timeline.fire deadlineMs)

/-- The timelines after each of the times at which something is due while some time passes. -/
def passings (timeline : Timeline) (delayMs : Nat) : List Timeline :=
  firings (delayMs + 1) (timeline.nowMs + delayMs) timeline

/-- The timelines after each of the resolvers that can be used. -/
def usings (timeline : Timeline) : List (Nat × Outcome) → List Timeline
  | [] => []
  | (batch, outcome) :: rest =>
    let used := timeline.resolve batch outcome
    if used.1 then used.2 :: usings used.2 rest else usings used.2 rest

/-- A timeline to which the outcomes of a schedule will come, and no others. At least so many workers
have been started. -/
structure Follows (workers : Nat) (schedule : Schedule) (account : Account) (timeline : Timeline) :
    Prop where
  orderly : Orderly [] timeline
  waits : timeline.waits = []
  nowMs : timeline.nowMs = schedule.nowMs
  next : timeline.ledger.next = schedule.next
  resolvers : timeline.resolvers = schedule.held
  timers : timeline.timers.Perm (schedule.coming.map Appointment.timer)
  ordered : schedule.Ordered
  hired : workers ≤ timeline.ledger.workers.length
  account : timeline.account = account

/-- From an account on, the expected outcomes have come, each to the moment at which everything that
followed from it had happened, and nothing is left to be done. -/
structure Delivers (workers : Nat) (begun : Account) (expected : List Outcome × Schedule)
    (moments : List Timeline) (timeline : Timeline) : Prop where
  moments : moments.map Timeline.account = begun.course expected.1
  follows : Follows workers expected.2
    ⟨expected.2.unresolved, begun.failures ++ expected.1.filterMap Outcome.report?⟩ timeline
  idle : timeline.ready = []

theorem Delivers.nothing {workers : Nat} {schedule : Schedule} {failures : List Event}
    {timeline : Timeline} (follows : Follows workers schedule ⟨schedule.unresolved, failures⟩ timeline)
    (idle : timeline.ready = []) :
    Delivers workers ⟨schedule.unresolved, failures⟩ ([], schedule) [] timeline :=
  ⟨rfl, by simpa using follows, idle⟩

theorem Delivers.cons {workers : Nat} {begun : Account} {outcome : Outcome}
    {expected : List Outcome × Schedule} {moment timeline : Timeline} {moments : List Timeline}
    (first : moment.account = begun.after outcome)
    (others : Delivers workers (begun.after outcome) expected moments timeline) :
    Delivers workers begun (outcome :: expected.1, expected.2) (moment :: moments) timeline where
  moments := by rw [List.map_cons, first, others.moments, Account.course]
  follows := by
    have follows := others.follows
    cases reported : outcome.report? <;>
      simpa [Account.after, reported, List.append_assoc] using follows
  idle := others.idle

/-- An outcome that comes takes one batch off the count, and the others come after it. -/
theorem Delivers.next {workers count : Nat} {failures : List Event} {outcome : Outcome}
    {later : Schedule} {moment timeline : Timeline} {expected : List Outcome × Schedule}
    {moments : List Timeline} (fewer : later.unresolved + 1 = count)
    (came : Follows workers later (Account.after ⟨count, failures⟩ outcome) moment)
    (others : ∀ {failures : List Event},
      Follows workers later ⟨later.unresolved, failures⟩ moment →
        Delivers workers ⟨later.unresolved, failures⟩ expected moments timeline) :
    Delivers workers ⟨count, failures⟩ (outcome :: expected.1, expected.2) (moment :: moments)
      timeline := by
  have agreed := came.account
  rw [Account.after_of_fewer fewer] at came
  have delivers := others came
  rw [← Account.after_of_fewer fewer] at delivers
  exact .cons agreed delivers

section

variable {workers : Nat} {schedule : Schedule} {account : Account} {timeline : Timeline}
variable {failures : List Event}

/-- What tasks do leaves a timeline on its schedule. -/
theorem Follows.ran (follows : Follows workers schedule account timeline) {later : Timeline}
    (orderly : Orderly [] later) (kept : Kept timeline later) {outcomes : List Outcome}
    (ran : Ran timeline outcomes later) :
    Follows workers schedule (outcomes.foldl Account.settle account) later where
  orderly := orderly
  waits := (ran.timers follows.waits).1
  nowMs := kept.nowMs.trans follows.nowMs
  next := kept.next.trans follows.next
  resolvers := kept.resolvers.trans follows.resolvers
  timers := by
    rw [(ran.timers follows.waits).2]
    exact follows.timers
  ordered := follows.ordered
  hired := follows.hired.trans kept.staffed.hired
  account := by rw [ran.account, follows.account]

theorem Follows.still (follows : Follows workers schedule account timeline)
    (still : timeline.underway = []) :
    Follows workers schedule account timeline.runReady ∧ timeline.runReady.ready = [] := by
  obtain ⟨after, idle, kept⟩ := follows.orderly.runReady
  exact ⟨follows.ran after kept (follows.orderly.ran_still still), idle⟩

/-- An outcome on its way is settled. -/
theorem Follows.single (follows : Follows workers schedule account timeline) {outcome : Outcome}
    (single : timeline.underway = [outcome]) (counted : 0 < account.pending) :
    Follows workers schedule (account.after outcome) timeline.runReady ∧
      timeline.runReady.ready = [] := by
  obtain ⟨after, idle, kept⟩ := follows.orderly.runReady
  have settled := follows.ran after kept (follows.orderly.ran_single single)
  rw [List.foldl_cons, List.foldl_nil, Account.settle_eq counted] at settled
  exact ⟨settled, idle⟩

/-! Time -/

theorem Follows.due_eq (follows : Follows workers schedule account timeline) {first : Appointment}
    {rest : List Appointment} (coming : schedule.coming = first :: rest) :
    (timeline.timers.filter fun timer => timer.deadlineMs = first.dueMs) = [first.timer] ∧
      (timeline.timers.filter fun timer => timer.deadlineMs ≠ first.dueMs).Perm
        (rest.map Appointment.timer) := by
  have timers := follows.timers
  have apart := follows.ordered.apart
  rw [coming] at timers apart
  have later : ∀ timer ∈ rest.map Appointment.timer, timer.deadlineMs ≠ first.dueMs := by
    intro timer member
    obtain ⟨other, known, rfl⟩ := List.mem_map.mp member
    exact ((List.pairwise_cons.mp apart).1 other known).ne'
  constructor
  · have due := timers.filter fun timer => decide (timer.deadlineMs = first.dueMs)
    have others : ((rest.map Appointment.timer).filter
        fun timer => decide (timer.deadlineMs = first.dueMs)) = [] :=
      List.filter_eq_nil_iff.mpr fun timer member => by simpa using later timer member
    rw [List.map_cons, List.filter_cons_of_pos (by simp [Appointment.timer]), others] at due
    exact List.perm_singleton.mp due
  · have left := timers.filter fun timer => decide (timer.deadlineMs ≠ first.dueMs)
    have others : ((rest.map Appointment.timer).filter
        fun timer => decide (timer.deadlineMs ≠ first.dueMs)) = rest.map Appointment.timer :=
      List.filter_eq_self.mpr fun timer member => by simpa using later timer member
    rwa [List.map_cons, List.filter_cons_of_neg (by simp [Appointment.timer]), others] at left

/-- The next outcome of a schedule comes, and everything that follows from it happens. -/
theorem Follows.fire (follows : Follows workers schedule account timeline) (idle : timeline.ready = [])
    {first : Appointment} {rest : List Appointment} (coming : schedule.coming = first :: rest)
    (counted : 0 < account.pending) :
    Follows workers { schedule with nowMs := first.dueMs, coming := rest }
      (account.after first.outcome) (timeline.fire first.dueMs) ∧
        (timeline.fire first.dueMs).ready = [] := by
  have shape := timeline.arrive_eq first.dueMs
  obtain ⟨due, left⟩ := follows.due_eq coming
  have ready : (timeline.arrive first.dueMs).ready = [first.timer.task] := by
    simp only [Timeline.arrive, due, wakeAll, List.map_cons, List.map_nil, List.foldl_cons,
      List.foldl_nil, wake, idle, List.not_mem_nil, if_false, List.nil_append]
  have still := follows.orderly.underway_of_idle idle
  rw [underway, idle, List.filterMap_nil, List.nil_append] at still
  have arrived : Follows workers { schedule with nowMs := first.dueMs, coming := rest } account
      (timeline.arrive first.dueMs) := by
    refine ⟨follows.orderly.arrive idle _, ?_, ?_, ?_, ?_, ?_, ?_, ?_, ?_⟩
    · rw [shape]
      exact follows.waits
    · rw [shape]
    · rw [shape]
      exact follows.next
    · rw [shape]
      exact follows.resolvers
    · rw [shape]
      exact left
    · exact follows.ordered.rest coming
    · rw [shape]
      exact follows.hired
    · rw [shape]
      exact follows.account
  refine arrived.single ?_ counted
  rw [underway, ready, shape, still]
  rfl

theorem Follows.mem_timers (follows : Follows workers schedule account timeline)
    {appointment : Appointment} (member : appointment ∈ schedule.coming) :
    appointment.timer ∈ timeline.timers :=
  follows.timers.mem_iff.mpr (List.mem_map_of_mem member)

/-- The next deadline is the time of the first appointment. -/
theorem Follows.nextDeadline?_some (follows : Follows workers schedule account timeline)
    {untilMs deadlineMs : Nat} (due : timeline.nextDeadline? untilMs = some deadlineMs) :
    ∃ first rest, schedule.coming = first :: rest ∧ first.dueMs = deadlineMs := by
  obtain ⟨-, ⟨timer, known, same⟩, least⟩ := Timeline.nextDeadline?_some due
  obtain ⟨appointment, member, rfl⟩ := List.mem_map.mp (follows.timers.mem_iff.mp known)
  cases coming : schedule.coming with
  | nil =>
    rw [coming] at member
    cases member
  | cons first rest =>
    refine ⟨first, rest, rfl, le_antisymm ?_ ?_⟩
    · rw [coming] at member
      rw [← same]
      rcases List.mem_cons.mp member with rfl | later
      · exact le_rfl
      · exact (follows.ordered.rest coming).ahead _ later
    · exact least first.timer (follows.mem_timers (by simp [coming]))

/-- Time moves on with nothing due. -/
theorem Follows.advance (follows : Follows workers schedule ⟨schedule.unresolved, failures⟩ timeline)
    (idle : timeline.ready = []) {untilMs : Nat}
    (later : ∀ appointment ∈ schedule.coming, untilMs < appointment.dueMs) :
    Delivers workers ⟨schedule.unresolved, failures⟩ (schedule.elapse untilMs) []
      { timeline with nowMs := untilMs } := by
  have moved : Follows workers { schedule with nowMs := untilMs }
      ⟨Schedule.unresolved { schedule with nowMs := untilMs }, failures⟩
      { timeline with nowMs := untilMs } :=
    { orderly :=
        { booked := follows.orderly.booked
          resting := follows.orderly.resting
          forwards := follows.orderly.forwards
          works := follows.orderly.works
          custody := follows.orderly.custody
          waits := follows.orderly.waits }
      waits := follows.waits
      nowMs := rfl
      next := follows.next
      resolvers := follows.resolvers
      timers := follows.timers
      ordered := ⟨follows.ordered.apart, fun appointment member => (later appointment member).le⟩
      hired := follows.hired
      account := follows.account }
  rw [Schedule.elapse_none later]
  exact .nothing moved idle

/-- Time goes from appointment to appointment. -/
theorem Follows.fireUntil (follows : Follows workers schedule ⟨schedule.unresolved, failures⟩ timeline)
    (idle : timeline.ready = []) (fuel untilMs lower : Nat)
    (earliest : ∀ appointment ∈ schedule.coming, lower ≤ appointment.dueMs)
    (enough : untilMs < lower + fuel) :
    Delivers workers ⟨schedule.unresolved, failures⟩ (schedule.elapse untilMs)
      (timeline.firings fuel untilMs) (timeline.fireUntil fuel untilMs) := by
  -- Every appointment is later than the one before, so the fuel lasts for all that are due.
  induction fuel generalizing schedule failures timeline lower with
  | zero =>
    refine follows.advance idle fun appointment member => ?_
    have after := earliest appointment member
    omega
  | succ fuel ih =>
    unfold Timeline.firings Timeline.fireUntil
    cases due : timeline.nextDeadline? untilMs with
    | none =>
      exact follows.advance idle fun appointment member =>
        nextDeadline?_none due _ (follows.mem_timers member)
    | some deadlineMs =>
      obtain ⟨first, rest, coming, rfl⟩ := follows.nextDeadline?_some due
      have soon := (Timeline.nextDeadline?_some due).1
      have after := earliest first (by simp [coming])
      have fewer : Schedule.unresolved { schedule with nowMs := first.dueMs, coming := rest } + 1 =
          schedule.unresolved := by
        simp only [Schedule.unresolved, coming, List.length_cons]
        omega
      obtain ⟨fired, still⟩ := follows.fire idle coming (by simp [← fewer])
      have apart := follows.ordered.apart
      rw [coming] at apart
      rw [Schedule.elapse_cons coming soon]
      exact .next fewer fired fun others => ih others still (first.dueMs + 1)
        (fun other member => (List.pairwise_cons.mp apart).1 other member) (by omega)

theorem Follows.pass (follows : Follows workers schedule ⟨schedule.unresolved, failures⟩ timeline)
    (idle : timeline.ready = []) (delayMs : Nat) :
    Delivers workers ⟨schedule.unresolved, failures⟩ (schedule.elapse (schedule.nowMs + delayMs))
      (timeline.passings delayMs) (timeline.pass delayMs) := by
  rw [passings, Timeline.pass, follows.nowMs]
  exact follows.fireUntil idle _ _ schedule.nowMs follows.ordered.ahead (by omega)

/-! Resolvers -/

/-- A resolver is used, and everything that follows from it happens. -/
theorem Follows.use (follows : Follows workers schedule account timeline) (idle : timeline.ready = [])
    {batch : Nat} (held : batch ∈ schedule.held) (outcome : Outcome) (counted : 0 < account.pending) :
    Follows workers { schedule with held := schedule.held.erase batch } (account.after outcome)
      (timeline.useResolver batch outcome).runReady ∧
    (timeline.useResolver batch outcome).runReady.ready = [] := by
  obtain ⟨orderly, kept⟩ := follows.orderly.useResolver batch outcome
  have known : batch ∈ timeline.resolvers := follows.resolvers ▸ held
  have removed := follows.orderly.removeResolver known
  have used : timeline.useResolver batch outcome =
      ((timeline.removeResolver batch).perform [.deliver batch outcome]).wake (.forward batch) := by
    rw [useResolver, if_pos (hasResolver_iff.mpr known)]
  have still : (timeline.removeResolver batch).underway = [] :=
    follows.orderly.underway_of_idle idle
  have way := removed.underway_deliver outcome
  rw [still, ← used] at way
  have reached : Follows workers { schedule with held := schedule.held.erase batch } account
      (timeline.useResolver batch outcome) := by
    refine ⟨orderly, ?_, kept.nowMs.trans follows.nowMs, kept.next.trans follows.next, ?_, ?_,
      ⟨follows.ordered.apart, follows.ordered.ahead⟩, follows.hired.trans kept.staffed.hired, ?_⟩
    · rw [used, wake_eq]
      exact follows.waits
    · rw [kept.resolvers, follows.resolvers]
    · rw [used, wake_eq]
      exact follows.timers
    · rw [used, removed.account_deliver]
      exact follows.account
  exact reached.single (List.perm_singleton.mp way) counted

/-- Resolvers are used one after the other. -/
theorem Follows.resolveAll (follows : Follows workers schedule ⟨schedule.unresolved, failures⟩ timeline)
    (idle : timeline.ready = []) (outcomes : List (Nat × Outcome)) :
    Delivers workers ⟨schedule.unresolved, failures⟩ (schedule.use outcomes) (timeline.usings outcomes)
      (timeline.resolveAll outcomes).2 := by
  induction outcomes generalizing schedule failures timeline with
  | nil => exact .nothing follows idle
  | cons given rest ih =>
    obtain ⟨batch, outcome⟩ := given
    have same : batch ∈ timeline.resolvers ↔ batch ∈ schedule.held := by rw [follows.resolvers]
    by_cases held : batch ∈ schedule.held
    · have some_held := List.length_pos_of_mem held
      have fewer : Schedule.unresolved { schedule with held := schedule.held.erase batch } + 1 =
          schedule.unresolved := by
        simp only [Schedule.unresolved, List.length_erase_of_mem held]
        omega
      obtain ⟨used, still⟩ := follows.use idle held outcome (by simp [← fewer])
      simp only [Schedule.use, if_pos held, usings, Timeline.resolveAll, resolve,
        if_pos (hasResolver_iff.mpr (same.mpr held))]
      exact .next fewer used fun others => ih others still
    · simp only [Schedule.use, if_neg held, usings, Timeline.resolveAll, resolve,
        if_neg (mt hasResolver_iff.mp (mt same.mp held))]
      exact ih follows idle

/-- A resolver is taken, and used when its time comes. -/
theorem Follows.resolveAfter (follows : Follows workers schedule ⟨schedule.unresolved, failures⟩ timeline)
    (idle : timeline.ready = []) {batch delayMs : Nat} {outcome : Outcome}
    (held : batch ∈ schedule.held)
    (free : schedule.isFree (schedule.appointment batch delayMs outcome) = true) :
    Delivers workers ⟨schedule.unresolved, failures⟩
      ((schedule.appoint (schedule.appointment batch delayMs outcome)).elapse schedule.nowMs)
      (((timeline.removeResolver batch).setTimer delayMs (.deliver batch outcome)).passings 0)
      (((timeline.removeResolver batch).setTimer delayMs (.deliver batch outcome)).pass 0) := by
  have known : batch ∈ timeline.resolvers := follows.resolvers ▸ held
  have timers : ((timeline.removeResolver batch).setTimer delayMs
      (.deliver batch outcome)).timers.Perm ((schedule.appoint (schedule.appointment batch delayMs
        outcome)).coming.map Appointment.timer) := by
    have same : (schedule.appointment batch delayMs outcome).timer =
        ⟨timeline.nowMs + Sleep.lengthMs delayMs, .deliver batch outcome⟩ := by
      rw [follows.nowMs]
      rfl
    have taken := (schedule.coming_appoint_perm
      (schedule.appointment batch delayMs outcome)).map Appointment.timer
    rw [List.map_cons, same] at taken
    exact (List.perm_append_singleton _ _).trans ((follows.timers.cons _).trans taken.symm)
  have appointed : Follows workers (schedule.appoint (schedule.appointment batch delayMs outcome))
      ⟨Schedule.unresolved (schedule.appoint (schedule.appointment batch delayMs outcome)),
        failures⟩ ((timeline.removeResolver batch).setTimer delayMs (.deliver batch outcome)) :=
    { orderly := (follows.orderly.removeResolver known).appoint delayMs outcome
      waits := follows.waits
      nowMs := follows.nowMs
      next := follows.next
      resolvers := congrArg (List.erase · batch) follows.resolvers
      timers := timers
      ordered := follows.ordered.appoint (Nat.le_add_right _ _) free
      hired := follows.hired
      account := by
        rw [Schedule.unresolved_appoint held]
        exact follows.account }
  have passed := appointed.pass idle 0
  rwa [Schedule.unresolved_appoint held] at passed

end

end Timeline
end Settlement
end CheckpointSink
