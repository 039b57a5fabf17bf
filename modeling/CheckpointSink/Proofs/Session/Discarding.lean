import CheckpointSink.Proofs.Session.Pruning
import CheckpointSink.Proofs.Settlement.Paths

/-!
A sink with one client that acknowledges every batch at once. Nothing is left outstanding between two
steps, so no checkpoint waits. The client stays closed once it was closed, and then it refuses every
batch, however often the sink is opened again.
-/

namespace CheckpointSink

open CheckpointSink.Settlement

variable {ε : Type}

/-- The operations of the life of a sink, apart from all that is done to its client or its clock. -/
def SessionStep.isLifecycle : SessionStep ε → Bool
  | openAt _ => true
  | invoke _ => true
  | snapshot => true
  | close => true
  | _ => false

/-! Callbacks without failures -/

theorem Account.failures_settle (account : Account) {outcome : Outcome}
    (plain : outcome.report? = none) : (account.settle outcome).failures = account.failures := by
  by_cases counted : 0 < account.pending
  · rw [settle_eq counted, plain]
    exact List.append_nil _
  · rw [settle, settle_spent (Int.not_lt.mp counted)]
    exact List.append_nil _

theorem Account.failures_foldl (account : Account) {outcomes : List Outcome}
    (plain : ∀ outcome ∈ outcomes, outcome.report? = none) :
    (outcomes.foldl Account.settle account).failures = account.failures := by
  induction outcomes generalizing account with
  | nil => rfl
  | cons outcome rest ih =>
    rw [List.foldl_cons, ih _ fun other member => plain other (List.mem_cons_of_mem _ member),
      failures_settle account (plain outcome List.mem_cons_self)]

namespace Settlement.Timeline

variable {timeline : Timeline}

/-- No failure was reported, and no outcome that is on its way will report one. -/
structure Unfailing (timeline : Timeline) : Prop where
  reported : timeline.account.failures = []
  coming : ∀ outcome ∈ timeline.underway, outcome.report? = none

theorem Unfailing.ran (unfailing : Unfailing timeline) {outcomes : List Outcome} {later : Timeline}
    (ran : Ran timeline outcomes later) : Unfailing later where
  reported := by
    rw [ran.account, Account.failures_foldl, unfailing.reported]
    exact fun outcome member =>
      unfailing.coming outcome (ran.underway.mem_iff.mpr (List.mem_append_left _ member))
  coming outcome member :=
    unfailing.coming outcome (ran.underway.mem_iff.mpr (List.mem_append_right _ member))

theorem Unfailing.clear (unfailing : Unfailing timeline) : Unfailing timeline.clearEntries :=
  ⟨rfl, unfailing.coming⟩

theorem Unfailing.submit (unfailing : Unfailing timeline) (orderly : Orderly [] timeline)
    (idle : timeline.ready = []) {worker : Nat} {state : Worker}
    (found : timeline.ledger.worker? worker = some state) {outcome : Outcome}
    (plain : outcome.report? = none) : Unfailing (timeline.submit (some outcome) worker) where
  reported := by
    rw [submit_eq orderly.booked idle found]
    exact unfailing.reported
  coming := by
    rw [underway_submit orderly idle found]
    simpa using plain

/-- A wait that finds nothing outstanding ends at its first poll. -/
theorem wait_empty (empty : timeline.pending = 0) (barrier : Barrier) :
    timeline.wait barrier = (some ⟨.drained, 0, 0⟩, timeline.enter (.waitSucceeded 0)) := by
  have read : (count.read timeline).1 = 0 := empty
  have same : (count.read timeline).2 = timeline := rfl
  have judged : barrier.judge 0 0 = some ⟨.drained, 0, 0⟩ := Barrier.judge_drained (Int.le_refl 0)
  have reported : barrier.report 0 0 = .waitSucceeded 0 := if_pos (Int.le_refl 0)
  simp only [wait, Barrier.pollBound, drain, read, same, judged, reported]
  rfl

/-- Where no resolver is left, none is used. -/
theorem useResolvers_none (none_left : timeline.resolvers = []) (outcomes : List (Nat × Outcome)) :
    timeline.useResolvers outcomes = timeline := by
  induction outcomes with
  | nil => rfl
  | cons given rest ih =>
    have unused : timeline.useResolver given.1 given.2 = timeline := by
      rw [useResolver, if_neg (by simp [hasResolver, none_left])]
    show (timeline.useResolver given.1 given.2).useResolvers rest = timeline
    rw [unused, ih]

end Settlement.Timeline

namespace Client

variable {client : Client}

theorem create_shared (shared : client.fromFactory = false) : client.create = client.handOut := by
  rw [create, if_neg (by simp [shared])]

/-- One and the same client is handed out again and again. -/
theorem isClosed_shared (shared : client.fromFactory = false) (number : Nat) :
    client.isClosed number = client.isClosed 0 := by
  simp [isClosed, identity, shared]

/-- The client is closed by every close, whatever number it has. -/
theorem isClosed_close (kind : client.kind = .discarding) (shared : client.fromFactory = false)
    (number other : Nat) : (client.close number).2.isClosed other = true := by
  simp [close, kind, isClosed, identity, shared]

theorem refusal?_discarding (kind : client.kind = .discarding) (number : Nat) :
    client.refusal? number = if client.isClosed number then some .closed else none := by
  simp only [refusal?, send, kind]
  cases client.isClosed number <;> rfl

end Client

namespace Session

variable {session : Session ε}

/-- The client is one that discards all batches, no resolver is left to be used, and no failure was or
will be reported. -/
structure Unburdened (session : Session ε) : Prop where
  kind : session.client.kind = .discarding
  shared : session.client.fromFactory = false
  orderly : session.timeline.Orderly []
  ahead : ∀ timer ∈ session.timeline.timers, session.timeline.nowMs < timer.deadlineMs
  resolvers : session.timeline.resolvers = []
  delayed : session.timeline.delayed = []
  worker : ∀ handle, session.sink.worker = some handle →
    handle.worker < session.timeline.ledger.workers.length
  unfailing : session.timeline.Unfailing

/-- A session with such a client between two steps. -/
structure Restful (session : Session ε) : Prop extends Unburdened session where
  idle : session.timeline.ready = []
  paired : session.Paired

/-- The timeline moves on, with whatever else happens to the session. -/
theorem Unburdened.move (unburdened : Unburdened session) {later : Session ε}
    (client : later.client.kind = session.client.kind ∧
      later.client.fromFactory = session.client.fromFactory)
    (orderly : later.timeline.Orderly []) (kept : session.timeline.Kept later.timeline)
    (unfailing : later.timeline.Unfailing)
    (worker : ∀ handle, later.sink.worker = some handle →
      handle.worker < later.timeline.ledger.workers.length) : Unburdened later where
  kind := client.1.trans unburdened.kind
  shared := client.2.trans unburdened.shared
  orderly := orderly
  ahead := kept.ahead unburdened.ahead
  resolvers := kept.resolvers.trans unburdened.resolvers
  delayed := kept.delayed.trans unburdened.delayed
  worker := worker
  unfailing := unfailing

theorem Unburdened.enter (unburdened : Unburdened session) {event : Event}
    (plain : event.isFailure = false) : Unburdened (session.enter event) :=
  unburdened.move ⟨rfl, rfl⟩ (unburdened.orderly.enter event) (.enter _ _)
    (unburdened.unfailing.ran (Timeline.ran_enter _ event plain)) unburdened.worker

theorem Restful.settled (restful : Restful session) : session.timeline.Settled :=
  ⟨restful.orderly, restful.idle, restful.ahead⟩

theorem Restful.pending (restful : Restful session) : session.pending = 0 := by
  rw [Session.pending, restful.settled.pending, restful.resolvers, restful.delayed]
  rfl

theorem Restful.clear (restful : Restful session) : Restful session.clear where
  kind := restful.kind
  shared := restful.shared
  orderly := restful.settled.clear.orderly
  ahead := restful.ahead
  resolvers := restful.resolvers
  delayed := restful.delayed
  worker := restful.worker
  unfailing := restful.unfailing.clear
  idle := restful.idle
  paired := restful.paired

/-! Opening -/

theorem acquire_shared (shared : session.client.fromFactory = false) :
    session.acquire.1 = none ∧ session.acquire.2.client.kind = session.client.kind ∧
      session.acquire.2.client.fromFactory = session.client.fromFactory := by
  obtain ⟨answer, -, -, client⟩ := acquire_eq session
  rw [answer, client, Client.create_shared shared]
  split <;> exact ⟨rfl, rfl, rfl⟩

theorem Unburdened.alike (unburdened : Unburdened session) {later : Session ε}
    (alike : Alike session later) (client : later.client.kind = session.client.kind ∧
      later.client.fromFactory = session.client.fromFactory) : Unburdened later := by
  refine unburdened.move client ?_ ?_ ?_ ?_
  · rw [alike.timeline]
    exact unburdened.orderly
  · rw [alike.timeline]
    exact .refl _
  · rw [alike.timeline]
    exact unburdened.unfailing
  · rw [alike.timeline, alike.worker]
    exact unburdened.worker

theorem Unburdened.employ (unburdened : Unburdened session) : Unburdened session.employ := by
  unfold Session.employ
  split
  · exact unburdened
  · obtain ⟨started, kept, hired⟩ := unburdened.orderly.start
    refine unburdened.move ⟨rfl, rfl⟩ started kept ?_ ?_
    · exact unburdened.unfailing.ran (Timeline.ran_woken_staff _ (Ledger.ran_start _))
    · intro handle found
      rw [← Option.some.inj found]
      exact hired

theorem Unburdened.openAt (unburdened : Unburdened session) (place : Place) :
    Unburdened (session.openAt place).2 := by
  have placed : (session.place place).client = session.client := client_place session place
  obtain ⟨created, client⟩ := acquire_shared (placed ▸ unburdened.shared)
  rw [placed] at client
  have acquired := unburdened.alike
    ((alike_place session place).trans (alike_acquire (session.place place))) client
  simp only [Session.openAt, created]
  exact acquired.employ.enter rfl

/-! Shipping -/

/-- A client that discards batches takes no time over them. -/
theorem Unburdened.considered (unburdened : Unburdened session) :
    session.considered = session.timeline :=
  if_pos (by simp [Client.delayMs, unburdened.kind])

theorem Restful.ship (restful : Restful session) (number : Nat) {worker : WorkerHandle}
    (hired : session.sink.worker = some worker) (request : LogRequest) :
    Unburdened (session.ship number worker request).2 := by
  have unslept := restful.considered
  have unchanged := (Client.send_discarding restful.kind number).1
  cases closed : session.client.isClosed number with
  | true =>
    have sent : (session.client.send number).1 = .error .closed := by
      simp [Client.send, restful.kind, closed]
    simp only [Session.ship, unslept, unchanged, sent]
    have recorded : Unburdened (session.record (.send number request (some .closed))) :=
      restful.toUnburdened.alike ⟨rfl, rfl, rfl, .refl _⟩ ⟨rfl, rfl⟩
    exact recorded.enter rfl
  | false =>
    have sent : (session.client.send number).1 = .ok (some (.answered (.success 1))) := by
      simp [Client.send, restful.kind, closed]
    simp only [Session.ship, unslept, unchanged, sent]
    obtain ⟨state, found⟩ : ∃ state, session.timeline.ledger.worker? worker.worker = some state :=
      ⟨_, List.getElem?_eq_getElem (restful.worker worker hired)⟩
    obtain ⟨submitted, kept⟩ := restful.orderly.submit found (some (.answered (.success 1)))
    exact
      { kind := restful.kind
        shared := restful.shared
        orderly := submitted
        ahead := kept.ahead restful.ahead
        resolvers := kept.resolvers.trans restful.resolvers
        delayed := kept.delayed.trans restful.delayed
        worker := fun handle known =>
          Nat.lt_of_lt_of_le (restful.worker handle known) kept.staffed.hired
        unfailing := restful.unfailing.submit restful.orderly restful.idle found rfl }

theorem Restful.invoke (restful : Restful session) (element : ε) :
    Unburdened (session.invoke element).2 := by
  cases opened : session.sink.clientHeld with
  | false =>
    rw [invoke_unopened opened]
    exact restful.toUnburdened
  | true =>
    obtain ⟨number, worker, held, hired⟩ := restful.paired.opened opened
    rw [invoke_hired held hired]
    split
    · exact restful.toUnburdened.enter rfl
    · split
      · exact restful.toUnburdened
      · exact restful.ship number hired _

/-! Closing -/

theorem Restful.closeClient (restful : Restful session) :
    Unburdened session.closeClient ∧ session.closeClient.timeline = session.timeline := by
  unfold Session.closeClient
  split
  · exact ⟨restful.toUnburdened, rfl⟩
  · rename_i number held
    have unfailed : (session.client.close number).1 = none := by simp [Client.close, restful.kind]
    have same : (session.client.close number).2.kind = session.client.kind ∧
        (session.client.close number).2.fromFactory = session.client.fromFactory := by
      simp [Client.close, restful.kind]
    simp only [unfailed, Timeline.useResolvers_none restful.resolvers]
    exact ⟨restful.toUnburdened.move same restful.orderly (.refl _) restful.unfailing
      restful.worker, rfl⟩

/-- The worker is stopped with nothing in its queue, whatever its grace period. -/
theorem Unburdened.dismiss (unburdened : Unburdened session) (idle : session.timeline.ready = []) :
    Unburdened session.dismiss := by
  unfold Session.dismiss
  split
  · exact unburdened
  · rename_i handle found
    have unqueued := unburdened.orderly.unqueued idle
    have hired := unburdened.worker handle found
    obtain ⟨orderly, kept⟩ :=
      unqueued.shutdown handle session.sink.settings.shutdownGraceMs hired
    have ran := Timeline.ran_shutdown unqueued (unburdened.orderly.underway_of_idle idle) handle
      session.sink.settings.shutdownGraceMs hired
    refine unburdened.move ⟨rfl, rfl⟩ orderly kept (unburdened.unfailing.ran ran) ?_
    intro other known
    cases known

theorem Restful.close (restful : Restful session) : Unburdened session.close := by
  obtain ⟨closed, same⟩ := restful.closeClient
  exact (closed.dismiss (same ▸ restful.idle)).enter rfl

/-! Steps -/

theorem Restful.wait (restful : Restful session) :
    session.wait = (some ⟨.drained, 0, 0⟩, session.enter (.waitSucceeded 0)) := by
  rw [Session.wait, Timeline.wait_empty restful.pending]
  rfl

theorem Restful.snapshot (restful : Restful session) : Unburdened session.snapshot.2 := by
  unfold Session.snapshot
  split
  · rw [restful.wait]
    exact restful.toUnburdened.enter rfl
  · exact restful.toUnburdened

theorem Restful.perform (restful : Restful session) {given : SessionStep ε}
    (lifecycle : given.isLifecycle = true) : Unburdened (session.perform given).2 := by
  cases given with
  | openAt place => exact restful.toUnburdened.openAt place
  | invoke element => exact restful.invoke element
  | snapshot => exact restful.snapshot
  | close => exact restful.close
  | _ => cases lifecycle

theorem Restful.step (restful : Restful session) {given : SessionStep ε}
    (lifecycle : given.isLifecycle = true) : Restful (session.step given).2 ∧
      failures (session.step given).1.entries = [] := by
  have performed := restful.clear.perform lifecycle
  obtain ⟨settled, kept⟩ := performed.orderly.settle performed.ahead
  obtain ⟨outcomes, -, ran⟩ := performed.orderly.ran_runReady
  have unfailing := performed.unfailing.ran ran
  have worker : ∀ handle, (session.step given).2.sink.worker = some handle →
      handle.worker < (session.step given).2.timeline.ledger.workers.length := fun handle found =>
    Nat.lt_of_lt_of_le (performed.worker handle found) kept.staffed.hired
  have unburdened : Unburdened (session.step given).2 :=
    performed.move ⟨rfl, rfl⟩ settled.orderly kept unfailing worker
  exact ⟨⟨unburdened, settled.idle, (leaves_step restful.paired given).paired⟩, unfailing.reported⟩

theorem Restful.run (restful : Restful session) {script : List (SessionStep ε)}
    (lifecycle : ∀ given ∈ script, given.isLifecycle = true) :
    Restful (session.after script) ∧
      ∀ report ∈ session.run script, report.pending = 0 ∧ failures report.entries = [] := by
  induction script generalizing session with
  | nil => exact ⟨restful, fun _ member => absurd member List.not_mem_nil⟩
  | cons given rest ih =>
    obtain ⟨next, plain⟩ := restful.step (lifecycle given List.mem_cons_self)
    obtain ⟨later, others⟩ := ih next fun other member => lifecycle other (List.mem_cons_of_mem _ member)
    refine ⟨later, fun report member => ?_⟩
    rcases List.mem_cons.mp member with rfl | old
    · exact ⟨next.pending, plain⟩
    · exact others report old

/-! The closed client -/

/-- Only a close of an open sink closes the client. -/
theorem Restful.closed_step (restful : Restful session) {given : SessionStep ε}
    (lifecycle : given.isLifecycle = true) : (session.step given).2.client.isClosed 0 = true ↔
      session.client.isClosed 0 = true ∨ given = .close ∧ session.isOpen = true := by
  have discarding : session.clear.client.kind = .discarding := restful.kind
  show (session.clear.perform given).2.client.isClosed 0 = true ↔ _
  cases given with
  | openAt place =>
    have same : (session.clear.openAt place).2.client.isClosed 0 = session.client.isClosed 0 := by
      have created : session.clear.client.create = session.client.handOut :=
        Client.create_shared restful.shared
      rw [client_openAt, created]
      split <;> rfl
    simp [Session.perform, same]
  | invoke element =>
    have same : (session.clear.invoke element).2.client = session.client := by
      rw [client_invoke restful.clear.paired]
      split
      · exact (Client.send_discarding discarding _).1
      · rfl
    simp [Session.perform, same]
  | snapshot =>
    have same : session.clear.snapshot.2.client = session.client := by
      unfold Session.snapshot
      split <;> rfl
    simp [Session.perform, same]
  | close =>
    have held : session.clear.sink.held = session.sink.held := rfl
    simp only [Session.perform, client_close, Session.isOpen, Sink.clientHeld, held]
    cases session.sink.held with
    | none => simp [Session.clear]
    | some number => simp [Client.isClosed_close discarding restful.shared]
  | _ => cases lifecycle

/-- A client is closed once some close has found the sink open, and it stays closed. -/
theorem Restful.closed_after (restful : Restful session) {script : List (SessionStep ε)}
    (lifecycle : ∀ given ∈ script, given.isLifecycle = true) :
    (session.after script).client.isClosed 0 = true ↔ session.client.isClosed 0 = true ∨
      ∃ before later, script = before ++ .close :: later ∧ (session.after before).isOpen = true := by
  induction script generalizing session with
  | nil => simp [Session.after]
  | cons given rest ih =>
    have here := lifecycle given List.mem_cons_self
    obtain ⟨next, -⟩ := restful.step here
    have others := ih next fun other member => lifecycle other (List.mem_cons_of_mem _ member)
    rw [Session.after, others, restful.closed_step here, or_assoc]
    refine or_congr_right ?_
    constructor
    · rintro (⟨rfl, opened⟩ | ⟨before, later, rfl, opened⟩)
      · exact ⟨[], rest, rfl, opened⟩
      · exact ⟨given :: before, later, rfl, opened⟩
    · rintro ⟨before, later, split, opened⟩
      cases before with
      | nil =>
        cases split
        exact .inl ⟨rfl, opened⟩
      | cons first between =>
        cases split
        exact .inr ⟨between, later, rfl, opened⟩

/-! An open sink -/

/-- A checkpoint of an open sink takes one poll. -/
theorem Restful.step_snapshot (restful : Restful session) (opened : session.isOpen = true) :
    (session.step .snapshot).1.answer = .waited ⟨.drained, 0, 0⟩ ∧
      (session.step .snapshot).1.entries = [.event (.waitSucceeded 0) 0] := by
  have held : session.clear.sink.clientHeld = true := opened
  have waited : session.clear.snapshot =
      (some ⟨.drained, 0, 0⟩, session.clear.enter (.waitSucceeded 0)) := by
    rw [Session.snapshot, if_pos held, restful.clear.wait]
  have idle : (session.clear.enter (.waitSucceeded 0)).timeline.ready = [] := restful.idle
  have still : (session.clear.enter (.waitSucceeded 0)).settleReady =
      session.clear.enter (.waitSucceeded 0) := by
    rw [settleReady, Timeline.runReady_idle idle]
  simp only [Session.step, Session.perform, waited, still]
  refine ⟨rfl, ?_⟩
  show [Entry.event (.waitSucceeded 0) session.pending] = _
  rw [restful.pending]

theorem Restful.answer_invoke (restful : Restful session) {element : ε} {request : LogRequest}
    (requested : session.request? element = some request) :
    (session.step (.invoke element)).1.answer =
      if session.client.isClosed 0 then .failed (.submit .closed) else .done := by
  have opened : session.clear.sink.clientHeld = true := (request?_eq_some_iff.mp requested).1
  have asked : session.clear.request? element = some request := requested
  obtain ⟨number, held⟩ := Option.isSome_iff_exists.mp opened
  have refusal : session.clear.refusal? =
      if session.client.isClosed 0 then some .closed else none := by
    rw [Session.refusal?, held, Option.bind_some, Client.refusal?_discarding restful.clear.kind,
      Client.isClosed_shared restful.clear.shared]
    rfl
  show SessionAnswer.ofResult (session.clear.invoke element).1 = _
  rw [invoke_opened restful.clear.paired opened, asked, Option.bind_some, refusal]
  cases session.client.isClosed 0 <;> rfl

/-- A batch that the closed client refuses leaves nothing but its report. -/
theorem Restful.invoke_closed (restful : Restful session) {element : ε} {request : LogRequest}
    (requested : session.request? element = some request)
    (closed : session.client.isClosed 0 = true) :
    (session.step (.invoke element)).2.clear = session.clear := by
  obtain ⟨opened, group, grouped, logs, -⟩ := request?_eq_some_iff.mp requested
  obtain ⟨number, worker, held, hired⟩ := restful.clear.paired.opened opened
  have nonempty : group.logs.isEmpty = false := by simpa using logs
  let asked := session.clear.sink.request element group
  have invoked : session.clear.invoke element = session.clear.ship number worker asked := by
    have given : session.clear.sink.schema session.clear.clock element = some group := grouped
    rw [invoke_hired held hired, given]
    simp [nonempty, asked]
  have sent : (session.clear.client.send number).1 = .error .closed := by
    have shut : session.client.isClosed number = true :=
      (Client.isClosed_shared restful.shared number).trans closed
    simp [Client.send, Session.clear, restful.kind, shut]
  have unslept := restful.clear.considered
  have unchanged : (session.clear.client.send number).2 = session.clear.client :=
    (Client.send_discarding restful.kind number).1
  let refused := (session.clear.record (.send number asked (some .closed))).enter
    (.sendFailed .closed)
  have shipped : (session.clear.ship number worker asked).2 = refused := by
    simp only [Session.ship, unslept, unchanged, sent, refused]
  have still : refused.timeline.runReady = refused.timeline := Timeline.runReady_idle restful.idle
  simp only [Session.step, Session.perform, invoked, shipped, settleReady, still]
  rfl

/-- A new session is restful if its one client discards all batches. -/
theorem restful_new (clock : UInt32) (sink : Sink ε) (unopened : sink.held = none)
    (unhired : sink.worker = none) :
    Restful (Session.new clock (.fresh .discarding false) sink) where
  kind := rfl
  shared := rfl
  orderly := Timeline.settled_empty.orderly
  ahead := Timeline.settled_empty.ahead
  resolvers := rfl
  delayed := rfl
  worker _ found := absurd (unhired.symm.trans found) (Option.some_ne_none _).symm
  unfailing := ⟨rfl, fun _ member => absurd member List.not_mem_nil⟩
  idle := rfl
  paired := by
    show sink.held.isSome = sink.worker.isSome
    rw [unopened, unhired]
    rfl

theorem grouping_after (session : Session ε) (script : List (SessionStep ε)) :
    (session.after script).clock = session.clock ∧
      (session.after script).sink.schema = session.sink.schema := by
  induction script generalizing session with
  | nil => exact ⟨rfl, rfl⟩
  | cons given rest ih =>
    have rerouted := reroutes_step session given
    obtain ⟨clock, schema⟩ := ih (session.step given).2
    exact ⟨clock.trans rerouted.clock, schema.trans rerouted.schema⟩

/-- Between two steps nothing is outstanding at a sink whose one client discards all batches, and no
failure is ever reported. A checkpoint of the open sink ends drained at its first poll, without time.
Batches are accepted until a close finds the sink open; after that every batch is refused, however
often the sink is opened again, and nothing changes by it. -/
theorem discards_until_closed (clock : UInt32) (settings : Settings)
    (schema : UInt32 → ε → Option LogGroup) (partitioner : Option (PlacedPartitioner ε))
    {script : List (SessionStep ε)} (lifecycle : ∀ given ∈ script, given.isLifecycle = true) :
    let begun := Session.new clock (.fresh .discarding false)
      { Sink.new settings schema with partitioner }
    let session := begun.after script
    let closedOnce := ∃ before later,
      script = before ++ .close :: later ∧ (begun.after before).isOpen = true
    (∀ report ∈ begun.run script, report.pending = 0 ∧ failures report.entries = []) ∧
      (session.isOpen = true → (session.step .snapshot).1.answer = .waited ⟨.drained, 0, 0⟩ ∧
        (session.step .snapshot).1.entries = [.event (.waitSucceeded 0) 0]) ∧
      ∀ element group, session.isOpen = true → schema clock element = some group →
        group.logs ≠ [] →
          (¬closedOnce → (session.step (.invoke element)).1.answer = .done) ∧
          (closedOnce → (session.step (.invoke element)).1.answer = .failed (.submit .closed) ∧
            (session.step (.invoke element)).2.clear = session.clear) := by
  intro begun session closedOnce
  have restful : Restful begun := restful_new clock _ rfl rfl
  obtain ⟨after, reports⟩ := restful.run lifecycle
  have closed : session.client.isClosed 0 = true ↔ closedOnce :=
    (restful.closed_after lifecycle).trans (or_iff_right Bool.false_ne_true)
  refine ⟨reports, after.step_snapshot, ?_⟩
  intro element group opened grouped logs
  obtain ⟨request, requested⟩ : ∃ request, session.request? element = some request := by
    refine ⟨_, request?_eq_some_iff.mpr ⟨opened, group, ?_, logs, rfl⟩⟩
    obtain ⟨same, alike⟩ := grouping_after begun script
    rw [same, alike]
    exact grouped
  have answer := after.answer_invoke requested
  refine ⟨fun never => ?_, fun once => ?_⟩
  · rw [answer, if_neg (mt closed.mp never)]
  · rw [answer, if_pos (closed.mpr once)]
    exact ⟨rfl, after.invoke_closed requested (closed.mpr once)⟩

/-- The sink is closed once and opened again. -/
def reopened : List (SessionStep LogGroup) :=
  [.openAt ⟨0, 1⟩, .invoke plainGroup, .snapshot, .close, .openAt ⟨0, 1⟩]

theorem discards_until_closed_reopened :
    let begun := Session.new 0 (.fresh .discarding false)
      { Sink.new plainSettings fun _ => some with partitioner := some (.unplaced .bySlice) }
    ((begun.after (reopened.take 1)).step (.invoke plainGroup)).1.answer = .done ∧
      ((begun.after reopened).step .snapshot).1.answer = .waited ⟨.drained, 0, 0⟩ ∧
      ((begun.after reopened).step (.invoke plainGroup)).1.answer = .failed (.submit .closed) ∧
      ((begun.after reopened).step (.invoke plainGroup)).2.clear = (begun.after reopened).clear := by
  intro begun
  have never : ¬∃ before later, reopened.take 1 = before ++ .close :: later ∧
      (begun.after before).isOpen = true := by
    rintro ⟨before, later, split, -⟩
    have close : SessionStep.close ∈ reopened.take 1 := split ▸ by simp
    simp [reopened] at close
  have once : ∃ before later, reopened = before ++ .close :: later ∧
      (begun.after before).isOpen = true :=
    ⟨reopened.take 3, reopened.drop 4, rfl, by decide +kernel⟩
  have opening : ∀ given ∈ reopened.take 1, given.isLifecycle = true := by decide
  have lifecycle : ∀ given ∈ reopened, given.isLifecycle = true := by decide
  have before := discards_until_closed 0 plainSettings (fun _ => some) (some (.unplaced .bySlice))
    opening
  have after := discards_until_closed 0 plainSettings (fun _ => some) (some (.unplaced .bySlice))
    lifecycle
  have accepted := (before.2.2 plainGroup plainGroup (by decide +kernel) rfl (by simp [plainGroup])).1
  have refused := (after.2.2 plainGroup plainGroup (by decide +kernel) rfl (by simp [plainGroup])).2
  exact ⟨accepted never, (after.2.1 (by decide +kernel)).1, refused once⟩

end Session

end CheckpointSink
