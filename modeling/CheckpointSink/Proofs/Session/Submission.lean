import CheckpointSink.Proofs.Session.Routing
import CheckpointSink.Proofs.Settlement.Lasting

/-!
What a sink submits. The requests are the elements of an open sink as its settings, its schema and
its partitioner map them, and the batches that are counted are those that the client accepted.
-/

namespace CheckpointSink

open CheckpointSink.Settlement

variable {ε : Type}

namespace Settlement

/-- So many batches were counted on the way to a ledger. -/
def Ledger.Counted (batches : Nat) (ledger : Ledger) : Prop :=
  ∃ history, Run history ledger ∧ history.counted = batches

theorem History.counted_note (history : History) (ledger : Ledger) {step : Step}
    (uncounted : ∀ delivered, step ≠ .count delivered) :
    (history.note ledger step).counted = history.counted := by
  cases step with
  | count delivered => exact absurd rfl (uncounted delivered)
  | _ => rfl

theorem Ledger.Counted.attempt {batches : Nat} {ledger : Ledger} {step : Step}
    (counted : ledger.Counted batches) (uncounted : ∀ delivered, step ≠ .count delivered) :
    (ledger.attempt step).Counted batches := by
  obtain ⟨history, run, counted⟩ := counted
  unfold Ledger.attempt
  cases taken : ledger.step? step with
  | none => exact ⟨history, run, counted⟩
  | some later =>
    exact ⟨_, run.step taken, (history.counted_note ledger uncounted).trans counted⟩

theorem Ledger.Counted.report {batches : Nat} {ledger : Ledger} (counted : ledger.Counted batches)
    (entries : List Entry) : Ledger.Counted batches { ledger with entries } := by
  obtain ⟨history, run, counted⟩ := counted
  exact ⟨history, run.report entries, counted⟩

theorem Ledger.outlasts_counted (batches : Nat) : Ledger.Outlasts (Ledger.Counted batches) where
  attempt := by
    rintro ledger step inner counted
    refine counted.attempt ?_
    rintro delivered rfl
    cases inner
  report _ _ _ counted := counted.report _
  staff := by
    rintro ledger step staffing counted
    refine counted.attempt ?_
    rintro delivered rfl
    cases staffing
  entries _ counted := counted.report _

theorem Ledger.Counted.submit {batches : Nat} {timeline : Timeline}
    (counted : Ledger.Counted batches timeline.ledger) (delivered : Option Outcome) (worker : Nat) :
    Ledger.Counted (batches + 1) (timeline.submit delivered worker).ledger := by
  obtain ⟨history, run, same⟩ := counted
  have more : Ledger.Counted (batches + 1) (timeline.ledger.attempt (.count delivered)) :=
    ⟨_, run.take (.count delivered), congrArg (· + 1) same⟩
  have attached : Ledger.Counted (batches + 1)
      (timeline.perform [.count delivered, .attach timeline.ledger.next worker]).ledger :=
    more.attempt (by simp)
  exact Ledger.Lasts.wake attached _

end Settlement

namespace Session

variable {session : Session ε} {batches : Nat}

/-! Counting -/

theorem counted_openAt (counted : Ledger.Counted batches session.timeline.ledger) (place : Place) :
    Ledger.Counted batches (session.openAt place).2.timeline.ledger := by
  have lasts := Ledger.outlasts_counted batches
  have alike := (alike_place session place).trans (alike_acquire (session.place place))
  have acquired : Ledger.Counted batches (session.place place).acquire.2.timeline.ledger := by
    rw [alike.timeline]
    exact counted
  unfold Session.openAt
  dsimp only
  split
  · exact acquired
  · have employed : Ledger.Counted batches
        (session.place place).acquire.2.employ.timeline.ledger := by
      unfold Session.employ
      split
      · exact acquired
      · exact lasts.start acquired
    exact lasts.enter employed _

theorem counted_accept (counted : Ledger.Counted batches session.timeline.ledger)
    (worker : WorkerHandle) (delivered : Option Outcome) :
    Ledger.Counted (batches + 1) (session.accept worker delivered).timeline.ledger := by
  have submitted := counted.submit delivered worker.worker
  unfold Session.accept
  dsimp only
  split <;> exact submitted

/-- A batch is counted if and only if the client accepts it. -/
theorem counted_ship (counted : Ledger.Counted batches session.timeline.ledger) (number : Nat)
    (worker : WorkerHandle) (request : LogRequest) :
    Ledger.Counted
      (batches + [Call.send number request (session.client.refusal? number)].countP Call.isAccepted)
      (session.ship number worker request).2.timeline.ledger := by
  have lasts := Ledger.outlasts_counted batches
  have later : Ledger.Counted batches session.considered.ledger := by
    unfold Session.considered
    split
    · exact counted
    · exact lasts.pass counted _
  simp only [Session.ship, Client.refusal?]
  cases (session.client.send number).1 with
  | error error => exact lasts.enter later _
  | ok delivered =>
    refine counted_accept ?_ worker delivered
    exact later

theorem counted_invoke (paired : session.Paired)
    (counted : Ledger.Counted batches session.timeline.ledger) (element : ε) :
    Ledger.Counted (batches + (session.callsOf (.invoke element)).countP Call.isAccepted)
      (session.invoke element).2.timeline.ledger := by
  cases opened : session.sink.clientHeld with
  | false =>
    rw [invoke_unopened opened]
    simpa [callsOf, Sink.held_eq_none_iff.mpr opened] using counted
  | true =>
    obtain ⟨number, worker, held, hired⟩ := paired.opened opened
    simp only [invoke_hired held hired, callsOf, request?, opened, held, if_true]
    cases session.sink.schema session.clock element with
    | none => exact (Ledger.outlasts_counted batches).enter counted _
    | some group =>
      by_cases empty : group.logs.isEmpty = true
      · simp only [empty, if_true]
        exact counted
      · simp only [empty, Bool.false_eq_true, if_false]
        exact counted_ship counted number worker _

theorem counted_close (counted : Ledger.Counted batches session.timeline.ledger) :
    Ledger.Counted batches session.close.timeline.ledger := by
  have lasts := Ledger.outlasts_counted batches
  have closed : Ledger.Counted batches session.closeClient.timeline.ledger := by
    unfold Session.closeClient
    split
    · exact counted
    · have used := lasts.useResolvers counted
        (session.client.closing.outcomes session.timeline.resolvers)
      dsimp only
      split
      · exact lasts.enter used _
      · exact used
  have dismissed : Ledger.Counted batches session.closeClient.dismiss.timeline.ledger := by
    unfold Session.dismiss
    split
    · exact closed
    · exact lasts.shutdown closed _ _
  exact lasts.enter dismissed _

/-- Only for elements batches are sent, so only they can be accepted. -/
theorem accepted_callsOf {given : SessionStep ε} (other : ∀ element, given ≠ .invoke element) :
    (session.callsOf given).countP Call.isAccepted = 0 := by
  rw [List.countP_eq_zero]
  intro call member accepted
  cases call with
  | send number request error =>
    obtain ⟨element, same, -⟩ := mem_callsOf_send member
    exact other element same
  | _ => cases accepted

theorem counted_perform (paired : session.Paired)
    (counted : Ledger.Counted batches session.timeline.ledger) (given : SessionStep ε) :
    Ledger.Counted (batches + (session.callsOf given).countP Call.isAccepted)
      (session.perform given).2.timeline.ledger := by
  have lasts := Ledger.outlasts_counted batches
  cases given with
  | openAt place =>
    rw [accepted_callsOf (by simp)]
    exact counted_openAt counted place
  | invoke element => exact counted_invoke paired counted element
  | close =>
    rw [accepted_callsOf (by simp)]
    exact counted_close counted
  | snapshot =>
    simp only [Session.perform, Session.snapshot]
    split
    · exact lasts.wait counted _
    · exact counted
  | wait => exact lasts.wait counted _
  | spawnWait => exact lasts.spawnWait counted _
  | join index =>
    simp only [Session.perform, joinWait]
    split
    · exact counted
    · exact lasts.join counted index
  | resolve outcomes => exact lasts.resolveAll counted outcomes
  | resolveAfter batch delayMs outcome => exact lasts.resolveAfter counted batch delayMs outcome
  | sleep delayMs => exact lasts.pass counted _
  | _ => exact counted

theorem counted_step (paired : session.Paired)
    (counted : Ledger.Counted batches session.timeline.ledger) (given : SessionStep ε) :
    Ledger.Counted (batches + (session.step given).1.calls.countP Call.isAccepted)
      (session.step given).2.timeline.ledger := by
  have lasts := Ledger.outlasts_counted
    (batches + (session.clear.callsOf given).countP Call.isAccepted)
  have cleared : Ledger.Counted batches session.clear.timeline.ledger :=
    (Ledger.outlasts_counted batches).entries [] counted
  have clearPaired : session.clear.Paired := paired
  rw [calls_step paired]
  exact lasts.runReady (counted_perform clearPaired cleared given)

theorem counted_after (paired : session.Paired)
    (counted : Ledger.Counted batches session.timeline.ledger) (script : List (SessionStep ε)) :
    Ledger.Counted (batches + (session.trace script).countP Call.isAccepted)
      (session.after script).timeline.ledger := by
  induction script generalizing session batches with
  | nil => exact counted
  | cons given rest ih =>
    have others := ih (leaves_step paired given).paired (counted_step paired counted given)
    rwa [Nat.add_assoc, ← List.countP_append, ← trace_cons] at others

end Session

/-! The requests -/

def Call.sent? : Call → Option LogRequest
  | send _ request _ => some request
  | _ => none

/-- The request that an element is mapped to, unless it has no logs. -/
def mapped (settings : Settings) (schema : ε → Option LogGroup)
    (partitioner : Option (PlacedPartitioner ε)) (element : ε) : Option LogRequest :=
  (schema element).bind fun group =>
    if group.logs = [] then none
    else some
      { project := settings.destination.project
        logstore := settings.logstore
        topic := group.topic
        source := group.source
        shardHashKey := partitioner.bind fun placed => placed.key element
        items := group.logs.map fun log => ⟨log.time, log.contents.entries⟩ }

/-- The fields of every item ascend. -/
theorem ascending_of_mapped {settings : Settings} {schema : ε → Option LogGroup}
    {partitioner : Option (PlacedPartitioner ε)} {element : ε} {request : LogRequest}
    (made : mapped settings schema partitioner element = some request) :
    ∀ item ∈ request.items, Fields.Ascending item.contents := by
  obtain ⟨group, -, made⟩ := Option.bind_eq_some_iff.mp made
  split at made
  · cases made
  · cases made
    intro item member
    obtain ⟨log, -, rfl⟩ := List.mem_map.mp member
    exact log.contents.ascending

/-- The requests of a script, given only what its steps were and whether the sink was open after
each. -/
def mappedAll (settings : Settings) (schema : ε → Option LogGroup) (isOpen : Bool)
    (partitioner : Option (PlacedPartitioner ε)) :
    List (SessionStep ε) → List SessionReport → List LogRequest
  | given :: steps, report :: reports =>
    (match given with
      | .invoke element => if isOpen then (mapped settings schema partitioner element).toList else []
      | _ => []) ++
      mappedAll settings schema report.isOpen (given.routes partitioner) steps reports
  | _, _ => []

theorem mem_mappedAll {settings : Settings} {schema : ε → Option LogGroup} {isOpen : Bool}
    {partitioner : Option (PlacedPartitioner ε)} {steps : List (SessionStep ε)}
    {reports : List SessionReport} {request : LogRequest}
    (member : request ∈ mappedAll settings schema isOpen partitioner steps reports) :
    ∃ routed element, mapped settings schema routed element = some request := by
  induction steps generalizing isOpen partitioner reports with
  | nil => cases member
  | cons given rest ih =>
    cases reports with
    | nil => cases member
    | cons report others =>
      rcases List.mem_append.mp member with now | later
      · cases given with
        | invoke element =>
          cases isOpen with
          | true => exact ⟨partitioner, element, Option.mem_toList.mp now⟩
          | false => cases now
        | _ => cases now
      · exact ih later

namespace Session

variable {session : Session ε}

theorem request?_eq_mapped (session : Session ε) (element : ε) : session.request? element =
    if session.isOpen then mapped session.sink.settings (session.sink.schema session.clock)
      session.sink.partitioner element
    else none := by
  have key : session.sink.shardKey element =
      session.sink.partitioner.bind fun placed => placed.key element := by
    unfold Sink.shardKey
    cases session.sink.partitioner <;> rfl
  unfold request? Session.isOpen mapped
  cases session.sink.clientHeld with
  | false => rfl
  | true =>
    cases session.sink.schema session.clock element with
    | none => rfl
    | some group =>
      simp only [if_true, Option.bind_some, List.isEmpty_iff, Sink.request, key]
      rfl

theorem sent_callsOf (session : Session ε) (given : SessionStep ε) :
    (session.callsOf given).filterMap Call.sent? = match given with
      | .invoke element => if session.isOpen then (mapped session.sink.settings
          (session.sink.schema session.clock) session.sink.partitioner element).toList else []
      | _ => [] := by
  cases given with
  | openAt place =>
    simp only [callsOf, List.filterMap_append]
    split <;> split <;> rfl
  | invoke element =>
    cases opened : session.isOpen with
    | false =>
      simp only [callsOf, Sink.held_eq_none_iff.mpr opened]
      rfl
    | true =>
      obtain ⟨number, held⟩ := Option.isSome_iff_exists.mp opened
      simp only [callsOf, held, request?_eq_mapped, opened, if_true]
      cases mapped session.sink.settings (session.sink.schema session.clock)
        session.sink.partitioner element <;> rfl
  | close =>
    simp only [callsOf]
    split <;> rfl
  | _ => rfl

/-- What a script sends is what its elements are mapped to. -/
theorem sent_trace (paired : session.Paired) (script : List (SessionStep ε)) :
    (session.trace script).filterMap Call.sent? = mappedAll session.sink.settings
      (session.sink.schema session.clock) session.isOpen session.sink.partitioner script
      (session.run script) := by
  induction script generalizing session with
  | nil => rfl
  | cons given rest ih =>
    have others := ih (leaves_step paired given).paired
    have rerouted := reroutes_step session given
    rw [rerouted.settings, rerouted.schema, rerouted.clock, rerouted.partitioner] at others
    rw [trace_cons, List.filterMap_append, calls_step paired, sent_callsOf, others]
    rfl

/-- The requests of a sink are what its settings, its schema and its partitioner make of the elements
that it is given while it is open, one for each that has logs, in their order. Every request goes to
the client that was handed out last, and that client alone has its number. Exactly the accepted requests
are counted, each once. -/
theorem submits_mapped (clock : UInt32) (client : Client) (settings : Settings)
    (schema : UInt32 → ε → Option LogGroup) (script : List (SessionStep ε)) :
    let begun := Session.new clock client (Sink.new settings schema)
    let calls := begun.trace script
    let sent := calls.filterMap Call.sent?
    sent = mappedAll settings (schema clock) false none script (begun.run script) ∧
      (∀ request ∈ sent, ∀ item ∈ request.items, Fields.Ascending item.contents) ∧
      (∀ before number request error later, calls = before ++ .send number request error :: later →
        ∃ earlier settings destination since,
          before = earlier ++ .create settings destination (.handedOut number) :: since ∧
            ∀ call ∈ since, call.isCreate = false ∧ call.isClose = false) ∧
      (∃ count, calls.filterMap Call.handedOut? = List.range' client.handedOut count) ∧
      ∃ history, Run history (begun.after script).timeline.ledger ∧
        history.counted = calls.countP Call.isAccepted ∧
          (begun.after script).pending = history.counted - history.completed.length := by
  intro begun calls sent
  have paired : begun.Paired := rfl
  have same : sent = mappedAll settings (schema clock) false none script (begun.run script) :=
    sent_trace paired script
  have made := hold_trace paired script
  refine ⟨same, ?_, ?_, numbers_of_hold made, ?_⟩
  · intro request member
    rw [same] at member
    obtain ⟨routed, element, made⟩ := mem_mappedAll member
    exact ascending_of_mapped made
  · intro before number request error later split
    rw [show begun.trace script = before ++ .send number request error :: later from split] at made
    obtain ⟨_, until_sent, rest⟩ := hold_append made
    obtain ⟨_, first, -⟩ := hold_cons rest
    exact handedOut_of_hold rfl until_sent (hold_send first).1
  · have fresh : Ledger.Counted 0 begun.timeline.ledger := ⟨.empty, .start, rfl⟩
    obtain ⟨history, run, counted⟩ := counted_after paired fresh script
    rw [Nat.zero_add] at counted
    have balance := run.accounted.balance
    have next := run.accounted.next
    refine ⟨history, run, counted, ?_⟩
    show (begun.after script).timeline.ledger.pending = _
    omega

end Session
end CheckpointSink
