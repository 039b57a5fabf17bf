import CheckpointSink.Proofs.Session.Custody

/-!
Every operation of a session is seen for what it is: the opening, the shipping of a batch with all
the answers that the client can give, the closing with any grace period, and the use of resolvers.
-/

namespace CheckpointSink

open CheckpointSink.Settlement

namespace Session

variable {ε : Type} {session : Session ε} {custody : Custody}

/-! Opening -/

theorem alike_place (session : Session ε) (place : Place) : Alike session (session.place place) := by
  unfold Session.place
  split <;> exact ⟨rfl, rfl, rfl, .refl _⟩

theorem create_alike (client : Client) : client.Alike client.create.2 := by
  unfold Client.create
  split
  · split <;> exact ⟨rfl, rfl, rfl⟩
  · exact ⟨rfl, rfl, rfl⟩

theorem alike_acquire (session : Session ε) : Alike session session.acquire.2 := by
  unfold Session.acquire
  split
  · exact .refl session
  · simp only
    split <;> exact ⟨rfl, rfl, rfl, create_alike session.client⟩

theorem Steady.employ (steady : Steady session) : Sound session.employ ∧
    session.timeline.Kept session.employ.timeline ∧
      session.client.Alike session.employ.client := by
  unfold Session.employ
  split
  · exact ⟨steady.toSound, .refl _, .refl _⟩
  · obtain ⟨started, kept, hired⟩ := steady.orderly.start
    refine ⟨⟨started, kept.ahead steady.ahead, steady.interval, ?_⟩, kept, .refl _⟩
    intro handle found
    rw [← Option.some.inj found]
    exact hired

theorem Sound.enter (sound : Sound session) (event : Event) : Sound (session.enter event) :=
  ⟨sound.orderly.enter event, sound.ahead, sound.interval, sound.worker⟩

theorem Steady.follows_openAt (steady : Steady session) (seen : Seen custody session)
    (place : Place) : Follows custody (.openAt place) (session.openAt place).2 := by
  have alike := (alike_place session place).trans (alike_acquire (session.place place))
  rw [Session.openAt]
  split
  · exact steady.follows_alike seen (fun _ => rfl) alike
  · have steady := steady.alike alike
    obtain ⟨sound, kept, client⟩ := steady.employ
    exact (seen.alike alike).follows (fun _ => rfl) (sound.enter _)
      ((kept.trans (.enter _ _)).passed steady.ahead) client

/-! Shipping -/

theorem send_alike (client : Client) (number : Nat) : client.Alike (client.send number).2 := by
  unfold Client.send
  split
  · split <;> exact ⟨rfl, rfl, rfl⟩
  · split <;> exact ⟨rfl, rfl, rfl⟩

/-- A client leaves a batch open that it accepts if it follows a script without outcomes. -/
theorem send_open {client : Client} {number : Nat} {delivered : Option Outcome}
    (accepted : (client.send number).1 = .ok delivered) :
    delivered.isNone = (decide (client.kind = .scripted) && client.automatic.isNone) := by
  rw [Client.send] at accepted
  cases kind : client.kind with
  | discarding =>
    rw [kind] at accepted
    simp only at accepted
    split at accepted
    · cases accepted
    · cases accepted
      rfl
  | scripted =>
    rw [kind] at accepted
    simp only at accepted
    split at accepted
    · cases accepted
    · cases accepted
      rfl

/-- An accepted batch is counted, and its resolver is in hand if it was left open. -/
theorem kept_accept {worker : WorkerHandle} (sound : Sound session)
    (hired : worker.worker < session.timeline.ledger.workers.length) (delivered : Option Outcome) :
    (session.accept worker delivered).timeline.Orderly [] ∧
      Timeline.Kept
        { session.timeline with
          ledger := { session.timeline.ledger with next := session.timeline.ledger.next + 1 }
          resolvers := if delivered.isNone then
            session.timeline.resolvers ++ [session.timeline.ledger.next]
            else session.timeline.resolvers }
        (session.accept worker delivered).timeline := by
  obtain ⟨state, found⟩ : ∃ state, session.timeline.ledger.worker? worker.worker = some state :=
    ⟨_, List.getElem?_eq_getElem hired⟩
  obtain ⟨submitted, kept⟩ := sound.orderly.submit found delivered
  cases delivered with
  | none =>
    refine ⟨Timeline.Orderly.addResolver submitted, ?_⟩
    exact kept.resolvers_map fun left => left ++ [session.timeline.ledger.next]
  | some outcome => exact ⟨submitted, kept⟩

theorem Sound.accept {worker : WorkerHandle} (sound : Sound session)
    (hired : worker.worker < session.timeline.ledger.workers.length) (delivered : Option Outcome) :
    Sound (session.accept worker delivered) := by
  obtain ⟨orderly, kept⟩ := kept_accept sound hired delivered
  refine ⟨orderly, kept.ahead sound.ahead, sound.interval, ?_⟩
  intro handle found
  exact Nat.lt_of_lt_of_le (sound.worker handle found) kept.staffed.hired

theorem Seen.accept (seen : Seen custody session) (sound : Sound session) {worker : WorkerHandle}
    (hired : worker.worker < session.timeline.ledger.workers.length) {delivered : Option Outcome}
    (leaves : delivered.isNone = custody.leavesOpen) :
    Seen custody.accept (session.accept worker delivered) := by
  obtain ⟨-, kept⟩ := kept_accept sound hired delivered
  refine ⟨seen.kind, seen.automatic, seen.closing, ?_, ?_, ?_⟩
  · exact kept.next.trans (congrArg (· + 1) seen.accepted)
  · apply kept.resolvers.trans
    simp only [Custody.accept, seen.held, seen.accepted, leaves]
  · exact kept.delayed.trans seen.delayed

/-- The session once the client has taken its time over a batch. -/
def answered (session : Session ε) (number : Nat) (request : LogRequest)
    (error : Option ClientError) : Session ε :=
  Session.record
    { session with
      timeline := session.considered
      client := (session.client.send number).2 } (.send number request error)

theorem Steady.considered (steady : Steady session) :
    session.considered.Settled ∧ session.timeline.Passed session.considered := by
  unfold Session.considered
  split
  · exact ⟨steady.settled, .refl steady.ahead⟩
  · obtain ⟨settled, -, passed⟩ := steady.settled.pass (Sleep.lengthMs session.client.delayMs)
    exact ⟨settled, passed⟩

theorem Steady.answered (steady : Steady session) (number : Nat) (request : LogRequest)
    (error : Option ClientError) : Sound (session.answered number request error) ∧
      session.timeline.Passed (session.answered number request error).timeline := by
  obtain ⟨settled, passed⟩ := steady.considered
  have sound := steady.moveOn settled passed.staffed
  exact ⟨⟨sound.orderly, sound.ahead, sound.interval, sound.worker⟩, passed⟩

theorem Steady.follows_refused (steady : Steady session) (seen : Seen custody session)
    (uncalled : session.calls = []) (number : Nat) (request : LogRequest) (error : ClientError)
    (element : ε) : Follows custody (.invoke element)
      ((session.answered number request (some error)).enter (.sendFailed error)) := by
  obtain ⟨sound, passed⟩ := steady.answered number request (some error)
  refine ⟨sound.enter _, ?_⟩
  intro report now calls
  have refused : report.calls.any Call.isAccepted = false := by
    rw [calls]
    simp [Session.enter, Session.answered, Session.record, uncalled, Call.isAccepted]
  rw [Custody.watch, Custody.note, refused, now]
  exact seen.passed (passed.trans ((Timeline.Kept.enter _ _).passed sound.ahead))
    (send_alike session.client number)

theorem Steady.follows_accepted (steady : Steady session) (seen : Seen custody session)
    (uncalled : session.calls = []) {number : Nat} {worker : WorkerHandle}
    (found : session.sink.worker = some worker) (request : LogRequest) {delivered : Option Outcome}
    (sent : (session.client.send number).1 = .ok delivered) (element : ε) :
    Follows custody (.invoke element)
      ((session.answered number request none).accept worker delivered) := by
  obtain ⟨sound, passed⟩ := steady.answered number request none
  have hired := sound.worker worker found
  have kept := (kept_accept sound hired delivered).2
  refine ⟨sound.accept hired delivered, ?_⟩
  intro report now calls
  have accepted : report.calls.any Call.isAccepted = true := by
    rw [calls]
    simp [Session.accept, Session.answered, Session.record, uncalled, Call.isAccepted]
  have leaves : delivered.isNone = custody.leavesOpen := by
    rw [send_open sent, seen.kind, seen.automatic]
    rfl
  have before := seen.passed passed (send_alike session.client number)
  rw [Custody.watch, Custody.note, accepted, now.trans kept.nowMs]
  exact before.accept sound hired leaves

/-- A batch that is sent is accepted or refused once the client has taken its time. -/
theorem Steady.follows_ship (steady : Steady session) (seen : Seen custody session)
    (uncalled : session.calls = []) (number : Nat) {worker : WorkerHandle}
    (found : session.sink.worker = some worker) (request : LogRequest) (element : ε) :
    Follows custody (.invoke element) (session.ship number worker request).2 := by
  cases sent : (session.client.send number).1 with
  | error error =>
    simp only [Session.ship, sent]
    exact steady.follows_refused seen uncalled number request error element
  | ok delivered =>
    simp only [Session.ship, sent]
    exact steady.follows_accepted seen uncalled found request sent element

theorem Steady.follows_invoke (steady : Steady session) (seen : Seen custody session)
    (uncalled : session.calls = []) (element : ε) :
    Follows custody (.invoke element) (session.invoke element).2 := by
  have still : Follows custody (.invoke element) session := by
    refine ⟨steady.toSound, ?_⟩
    intro report now calls
    rw [Custody.watch, Custody.note, calls, uncalled, now]
    exact seen.passed (.refl steady.ahead) (.refl _)
  unfold Session.invoke
  split
  · rename_i number worker _ found
    split
    · refine ⟨steady.toSound.enter _, ?_⟩
      intro report now calls
      have uncalled : report.calls = [] := by
        rw [calls]
        simp [Session.enter, uncalled]
      rw [Custody.watch, Custody.note, uncalled, now]
      exact seen.passed ((Timeline.Kept.enter _ _).passed steady.ahead) (.refl _)
    · split
      · exact still
      · exact steady.follows_ship seen uncalled number found _ element
  · exact still

/-! Closing -/

theorem close_alike (client : Client) (number : Nat) : client.Alike (client.close number).2 := by
  unfold Client.close
  split <;> exact ⟨rfl, rfl, rfl⟩

/-- What the dismissal of a worker leaves. -/
structure Dismissed (session later : Session ε) : Prop where
  orderly : later.timeline.Orderly []
  kept : session.timeline.Kept later.timeline
  gone : later.sink.worker = none
  settings : later.sink.settings = session.sink.settings
  client : later.client = session.client
  calls : later.calls = session.calls

theorem dismissed (unqueued : session.timeline.Unqueued)
    (worker : ∀ handle, session.sink.worker = some handle →
      handle.worker < session.timeline.ledger.workers.length) :
    Dismissed session session.dismiss := by
  unfold Session.dismiss
  split
  · rename_i absent
    exact ⟨unqueued.orderly, .refl _, absent, rfl, rfl, rfl⟩
  · rename_i handle found
    obtain ⟨orderly, kept⟩ := unqueued.shutdown handle session.sink.settings.shutdownGraceMs
      (worker handle found)
    exact ⟨orderly, kept, rfl, rfl, rfl, rfl⟩

/-- The outcomes that a close of the client gives to its batches. -/
def closingOutcomes (session : Session ε) : List (Nat × Outcome) :=
  if session.sink.clientHeld then session.client.closing.outcomes session.timeline.resolvers else []

/-- What a close of the client leaves. -/
structure ClientClosed (session later : Session ε) : Prop where
  unqueued : later.timeline.Unqueued
  kept : Timeline.Kept { session.timeline with
    resolvers := Timeline.leftOver session.timeline.resolvers session.closingOutcomes } later.timeline
  worker : later.sink.worker = session.sink.worker
  settings : later.sink.settings = session.sink.settings
  client : session.client.Alike later.client
  called : later.calls.any Call.isClose =
    (session.sink.clientHeld || session.calls.any Call.isClose)

theorem ClientClosed.enter {later : Session ε} (closed : ClientClosed session later) (event : Event) :
    ClientClosed session (later.enter event) :=
  ⟨closed.unqueued.enter event, closed.kept.trans (.enter _ _), closed.worker, closed.settings,
    closed.client, closed.called⟩

theorem Steady.closeClient (steady : Steady session) :
    ClientClosed session session.closeClient := by
  have unqueued := steady.orderly.unqueued steady.idle
  have used := (steady.orderly.useResolvers session.closingOutcomes).2
  unfold Session.closeClient
  cases held : session.sink.held with
  | some number =>
    have outcomes : session.closingOutcomes =
        session.client.closing.outcomes session.timeline.resolvers := by
      rw [closingOutcomes, if_pos (Sink.clientHeld_of_held held)]
    have returned : ClientClosed session (Session.record { session with
        timeline := session.timeline.useResolvers session.closingOutcomes
        client := (session.client.close number).2
        sink := { session.sink with held := none } }
          (.close number (session.client.close number).1)) :=
      ⟨unqueued.useResolvers _, used, rfl, rfl, close_alike session.client number,
        by simp [Session.record, Call.isClose, Sink.clientHeld_of_held held]⟩
    rw [outcomes] at returned
    dsimp only
    split
    · exact returned.enter _
    · exact returned
  | none =>
    have closed := Sink.held_eq_none_iff.mp held
    have outcomes : session.closingOutcomes = [] := by
      rw [closingOutcomes, if_neg (by simp [closed])]
    rw [outcomes] at used
    refine ⟨unqueued, ?_, rfl, rfl, .refl _, by simp [closed]⟩
    rw [outcomes]
    exact used

theorem Steady.follows_close (steady : Steady session) (seen : Seen custody session)
    (uncalled : session.calls = []) : Follows custody (.close : SessionStep ε) session.close := by
  have closed := steady.closeClient
  have left := dismissed closed.unqueued fun handle found =>
    Nat.lt_of_lt_of_le (steady.worker handle (closed.worker ▸ found)) closed.kept.staffed.hired
  have kept := closed.kept.trans left.kept
  refine ⟨⟨left.orderly.enter _, kept.ahead steady.ahead, ?_, ?_⟩, ?_⟩
  · show 0 < session.closeClient.dismiss.sink.settings.pollIntervalMs
    rw [left.settings, closed.settings]
    exact steady.interval
  · intro handle found
    change session.closeClient.dismiss.sink.worker = some handle at found
    rw [left.gone] at found
    cases found
  · intro report now reported
    have known : report.calls.any Call.isClose = session.sink.clientHeld := by
      rw [reported, List.any_reverse]
      show session.closeClient.dismiss.calls.any Call.isClose = _
      rw [left.calls, closed.called, uncalled]
      simp
    have noted : custody.note report (.close : SessionStep ε) =
        custody.use session.closingOutcomes := by
      rw [Custody.note, known, closingOutcomes, seen.closing, seen.held]
      split <;> rfl
    have before : Seen (custody.use session.closingOutcomes) { session with
        timeline := { session.timeline with
          resolvers := Timeline.leftOver session.timeline.resolvers session.closingOutcomes } } :=
      ⟨seen.kind, seen.automatic, seen.closing, seen.accepted, by rw [seen.held]; rfl, seen.delayed⟩
    rw [Custody.watch, noted, now]
    apply before.passed ((kept.trans (.enter _ _)).passed steady.ahead)
    show session.client.Alike session.closeClient.dismiss.client
    rw [left.client]
    exact closed.client

/-! Resolvers -/

theorem Steady.follows_resolve (steady : Steady session) (seen : Seen custody session)
    (outcomes : List (Nat × Outcome)) :
    Follows custody (.resolve outcomes : SessionStep ε)
      { session with timeline := (session.timeline.resolveAll outcomes).2 } := by
  obtain ⟨settled, kept⟩ := steady.settled.resolveAll outcomes
  refine ⟨steady.moveOn settled kept.staffed, ?_⟩
  intro report now _
  have before : Seen (custody.use outcomes) { session with timeline := { session.timeline with
      resolvers := Timeline.leftOver session.timeline.resolvers outcomes } } :=
    ⟨seen.kind, seen.automatic, seen.closing, seen.accepted, by rw [seen.held]; rfl, seen.delayed⟩
  rw [Custody.watch, Custody.note, now]
  exact before.passed (kept.passed steady.ahead) (.refl _)

theorem Steady.follows_resolveAfter (steady : Steady session) (seen : Seen custody session)
    (batch delayMs : Nat) (outcome : Outcome) :
    Follows custody (.resolveAfter batch delayMs outcome : SessionStep ε)
      { session with timeline := (session.timeline.resolveAfter batch delayMs outcome).2 } := by
  by_cases held : batch ∈ session.timeline.resolvers
  · obtain ⟨settled, nowMs, passed⟩ := steady.settled.resolveAfter held delayMs outcome
    refine ⟨steady.moveOn settled passed.staffed, ?_⟩
    intro report now _
    have known : batch ∈ custody.held := seen.held ▸ held
    have delayed := Timeline.delayed_setTimer (session.timeline.removeResolver batch) delayMs
      (.deliver batch outcome)
    have before : Seen (custody.delay batch (session.timeline.nowMs + Sleep.lengthMs delayMs))
        { session with timeline :=
          (session.timeline.removeResolver batch).setTimer delayMs (.deliver batch outcome) } := by
      rw [Custody.delay, if_pos known]
      exact ⟨seen.kind, seen.automatic, seen.closing, seen.accepted,
        congrArg (List.erase · batch) seen.held,
        delayed.trans (congrArg (· ++ [(batch, _)]) seen.delayed)⟩
    have noted : custody.note report (.resolveAfter batch delayMs outcome : SessionStep ε) =
        custody.delay batch (session.timeline.nowMs + Sleep.lengthMs delayMs) := by
      rw [Custody.note, now.trans nowMs]
    rw [Custody.watch, noted, now]
    exact before.passed passed (.refl _)
  · have same : (session.timeline.resolveAfter batch delayMs outcome).2 = session.timeline := by
      rw [Timeline.resolveAfter, if_neg (mt Timeline.hasResolver_iff.mp held)]
    rw [same]
    refine steady.follows_passed seen ?_ steady.settled (.refl steady.ahead)
    intro report
    have unknown : batch ∉ custody.held := seen.held ▸ held
    rw [Custody.note, Custody.delay, if_neg unknown]

/-! Steps -/

theorem Steady.follows_joinWait (steady : Steady session) (seen : Seen custody session)
    (index : Nat) : Follows custody (.join index : SessionStep ε)
      { session with timeline := (joinWait session.timeline index).2 } := by
  unfold joinWait
  split
  · exact steady.follows_passed seen (fun _ => rfl) steady.settled (.refl steady.ahead)
  · obtain ⟨settled, passed⟩ := steady.settled.join index
    exact steady.follows_passed seen (fun _ => rfl) settled passed

/-- What is known of the client changes with it. -/
theorem Steady.follows_client (steady : Steady session) {given : SessionStep ε} {client : Client}
    {changed : Custody} (note : ∀ report, custody.note report given = changed)
    (known : Seen changed { session with client }) :
    Follows custody given { session with client } := by
  refine ⟨⟨steady.orderly, steady.ahead, steady.interval, steady.worker⟩, ?_⟩
  intro report now _
  rw [Custody.watch, note, now]
  exact known.passed (.refl steady.ahead) (.refl _)

/-- Every step is seen for what it is. -/
theorem Steady.follows_perform (steady : Steady session) (seen : Seen custody session)
    (uncalled : session.calls = []) (given : SessionStep ε) :
    Follows custody given (session.perform given).2 := by
  cases given with
  | openAt place => exact steady.follows_openAt seen place
  | restoreState => exact steady.follows_alike seen (fun _ => rfl) (.refl session)
  | invoke element => exact steady.follows_invoke seen uncalled element
  | snapshot =>
    simp only [Session.perform, Session.snapshot]
    split
    · obtain ⟨settled, passed⟩ := steady.settled.wait session.sink.barrier
      exact steady.follows_passed seen (fun _ => rfl) settled passed
    · exact steady.follows_alike seen (fun _ => rfl) (.refl session)
  | close => exact steady.follows_close seen uncalled
  | wait =>
    obtain ⟨settled, passed⟩ := steady.settled.wait session.sink.barrier
    exact steady.follows_passed seen (fun _ => rfl) settled passed
  | spawnWait =>
    obtain ⟨settled, passed⟩ := steady.settled.spawnWait session.sink.barrier
      steady.interval
    exact steady.follows_passed seen (fun _ => rfl) settled passed
  | isOver index => exact steady.follows_alike seen (fun _ => rfl) (.refl session)
  | join index => exact steady.follows_joinWait seen index
  | setPartitioner partitioner =>
    exact steady.follows_alike seen (fun _ => rfl) ⟨rfl, rfl, rfl, ⟨rfl, rfl, rfl⟩⟩
  | showSettings => exact steady.follows_alike seen (fun _ => rfl) (.refl session)
  | resolve outcomes => exact steady.follows_resolve seen outcomes
  | resolveAfter batch delayMs outcome => exact steady.follows_resolveAfter seen batch delayMs outcome
  | rejectNext error => exact steady.follows_alike seen (fun _ => rfl) ⟨rfl, rfl, rfl, ⟨rfl, rfl, rfl⟩⟩
  | setAutomatic outcome =>
    exact steady.follows_client (fun _ => rfl)
      ⟨seen.kind, rfl, seen.closing, seen.accepted, seen.held, seen.delayed⟩
  | setSendDelay delayMs =>
    exact steady.follows_alike seen (fun _ => rfl) ⟨rfl, rfl, rfl, ⟨rfl, rfl, rfl⟩⟩
  | setClosing closing =>
    exact steady.follows_client (fun _ => rfl)
      ⟨seen.kind, seen.automatic, rfl, seen.accepted, seen.held, seen.delayed⟩
  | failCloseNext error =>
    exact steady.follows_alike seen (fun _ => rfl) ⟨rfl, rfl, rfl, ⟨rfl, rfl, rfl⟩⟩
  | failFactoryNext error =>
    exact steady.follows_alike seen (fun _ => rfl) ⟨rfl, rfl, rfl, ⟨rfl, rfl, rfl⟩⟩
  | sleep delayMs =>
    obtain ⟨settled, -, passed⟩ := steady.settled.pass (Sleep.lengthMs delayMs)
    exact steady.follows_passed seen (fun _ => rfl) settled passed

end Session
end CheckpointSink
