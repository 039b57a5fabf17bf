import CheckpointSink.Proofs.Session.Pruning

/-!
Operations that fail, or have nothing to do, leave no trace. A script without some of them, and
without the replies that they used, has the same reports at all its other steps.
-/

namespace CheckpointSink

open CheckpointSink.Settlement

variable {ε : Type}

/-! What is observed -/

/-- What is entered by a callback, or by the worker that runs callbacks. -/
def Entry.isCallback : Entry → Bool
  | event entered _ => entered.target = "log_producer_sink::callback"
  | underflow => true

def Call.accepted? : Call → Option LogRequest
  | send _ request none => some request
  | _ => none

/-- The requests that a client accepted during a step. -/
def SessionReport.accepted (report : SessionReport) : List LogRequest :=
  report.calls.filterMap Call.accepted?

def SessionReport.callbacks (report : SessionReport) : List Entry :=
  report.entries.filter Entry.isCallback

theorem SessionStep.eq_of_queues {given : SessionStep ε} (queues : given.queues?.isSome = true) :
    ∃ error, given = .rejectNext error ∨ given = .failFactoryNext error := by
  cases given with
  | rejectNext error => exact ⟨error, .inl rfl⟩
  | failFactoryNext error => exact ⟨error, .inr rfl⟩
  | _ => cases queues

namespace Client

variable {client : Client} {error : ClientError}

/-! A client that fails or refuses is changed in its replies only. -/

theorem withReplies_create (failed : client.create.1 = .failed error)
    (replies : Reply → List ClientError) :
    client.create.2.withReplies replies = client.withReplies replies := by
  unfold create at failed ⊢
  split
  · split
    · rfl
    · simp_all [handOut]
  · simp_all [handOut]

theorem withReplies_send (client : Client) (number : Nat) (replies : Reply → List ClientError) :
    (client.send number).2.withReplies replies = client.withReplies replies := by
  unfold send
  split <;> split <;> rfl

theorem send_of_refusal? {number : Nat} (refused : client.refusal? number = some error) :
    (client.send number).1 = .error error := by
  unfold refusal? at refused
  split at refused <;> simp_all

theorem factoryErrors_ne_nil (failed : client.create.1 = .failed error) :
    client.factoryErrors ≠ [] := by
  intro empty
  unfold create at failed
  split at failed <;> simp_all [handOut]

theorem rejections_ne_nil (scripted : client.kind = .scripted) {number : Nat}
    (refused : client.refusal? number = some error) : client.rejections ≠ [] := by
  intro empty
  simp [refusal?, send_scripted scripted, empty] at refused

end Client

namespace Session

variable {session later : Session ε} {queues : Queues}
  {partitioner : Option (PlacedPartitioner ε)}

/-! Futile steps -/

/-- A step that failed or found nothing to do, and took no time over it. -/
def isFutile (session : Session ε) : SessionStep ε → Bool
  | .openAt place =>
    match (session.step (.openAt place)).1.answer with
    | .failed (.creation _) => true
    | _ => false
  | .invoke element =>
    match (session.step (.invoke element)).1.answer with
    | .failed .notOpened => true
    | .failed (.submit _) => session.client.delayMs = 0
    | _ => (session.sink.schema session.clock element).all (·.logs.isEmpty)
  | .close => !session.isOpen
  | _ => false

/-- What makes a step futile. A reply that is queued is not observed before it is used. -/
inductive Futile (session : Session ε) : SessionStep ε → Prop where
  | openAt (place : Place) (unheld : session.sink.clientHeld = false) {error : ClientError}
      (failed : session.client.create.1 = .failed error) : Futile session (.openAt place)
  | passedOver (element : ε) (unasked : session.request? element = none) :
      Futile session (.invoke element)
  | refused (element : ε) {request : LogRequest} (asked : session.request? element = some request)
      {error : ClientError} (refused : session.refusal? = some error)
      (instant : session.client.delayMs = 0) : Futile session (.invoke element)
  | close (unheld : session.sink.clientHeld = false) : Futile session .close
  | queue {given : SessionStep ε} (queued : given.queues?.isSome = true) : Futile session given

theorem answer_openAt (session : Session ε) (place : Place) :
    (session.step (.openAt place)).1.answer =
      match if session.sink.clientHeld then none else session.client.create.1.error? with
      | some error => .failed (.creation error)
      | none => .done := by
  have answered := (acquire_eq (session.clear.place place)).1
  rw [sink_place, client_place] at answered
  change _ = if session.sink.clientHeld then none else session.client.create.1.error? at answered
  rw [← answered]
  show SessionAnswer.ofResult (session.clear.openAt place).1 = _
  unfold Session.openAt
  dsimp only
  cases (session.clear.place place).acquire.1 <;> rfl

theorem answer_invoke (paired : session.Paired) (element : ε) :
    (session.step (.invoke element)).1.answer =
      if session.sink.clientHeld then
        match (session.request? element).bind fun _ => session.refusal? with
        | some error => .failed (.submit error)
        | none => .done
      else .failed .notOpened := by
  have cleared : session.clear.Paired := paired
  show SessionAnswer.ofResult (session.clear.invoke element).1 = _
  cases held : session.sink.clientHeld with
  | false =>
    have closed : session.clear.sink.clientHeld = false := held
    rw [invoke_unopened closed]
    rfl
  | true =>
    have same : (session.clear.request? element).bind (fun _ => session.clear.refusal?) =
        (session.request? element).bind fun _ => session.refusal? := rfl
    rw [invoke_opened cleared held, same]
    cases (session.request? element).bind fun _ => session.refusal? <;> rfl

theorem request?_eq_none {element : ε}
    (empty : (session.sink.schema session.clock element).all (·.logs.isEmpty) = true) :
    session.request? element = none := by
  unfold request?
  cases logs : session.sink.schema session.clock element with
  | none => simp
  | some group =>
    rw [logs, Option.all_some] at empty
    simp [empty]

theorem futile_of_isFutile (paired : session.Paired) {given : SessionStep ε}
    (futile : session.isFutile given = true) : Futile session given := by
  cases given with
  | openAt place =>
    rw [isFutile, answer_openAt] at futile
    cases held : session.sink.clientHeld with
    | true => simp [held] at futile
    | false =>
      cases made : session.client.create.1 with
      | handedOut number => simp [held, made, Creation.error?] at futile
      | failed error => exact .openAt place held made
  | invoke element =>
    rw [isFutile, answer_invoke paired] at futile
    cases held : session.sink.clientHeld with
    | false => exact .passedOver element (by simp [request?, held])
    | true =>
      cases asked : session.request? element with
      | none => exact .passedOver element asked
      | some request =>
        cases refused : session.refusal? with
        | some error =>
          simp only [held, asked, refused, if_true, Option.bind_some, decide_eq_true_eq] at futile
          exact .refused element asked refused futile
        | none =>
          simp only [held, asked, refused, if_true, Option.bind_some] at futile
          rw [request?_eq_none futile] at asked
          cases asked
  | close => exact .close (by simpa [isFutile, isOpen] using futile)
  | _ => cases futile

/-! Without a trace -/

/-- A session that differs at most in its replies, in its partitioner, in its calls and in entries
that are not of callbacks. -/
structure Traceless (session later : Session ε) : Prop where
  same : ∀ queues partitioner,
    later.clear.pruned queues partitioner = session.clear.pruned queues partitioner
  callbacks : later.timeline.ledger.entries.filter Entry.isCallback =
    session.timeline.ledger.entries.filter Entry.isCallback

theorem Traceless.refl (session : Session ε) : Traceless session session :=
  ⟨fun _ _ => rfl, rfl⟩

theorem Traceless.trans {last : Session ε} (first : Traceless session later)
    (second : Traceless later last) : Traceless session last :=
  ⟨fun queues partitioner => (second.same queues partitioner).trans (first.same queues partitioner),
    second.callbacks.trans first.callbacks⟩

theorem Traceless.enter (traceless : Traceless session later) {event : Event}
    (other : event.target ≠ "log_producer_sink::callback") :
    Traceless session (later.enter event) := by
  refine ⟨traceless.same, ?_⟩
  rw [← traceless.callbacks]
  simp [Session.enter, Timeline.enter, Ledger.enter, Entry.isCallback, other]

theorem traceless_place (session : Session ε) (place : Place) :
    Traceless session (session.place place) := by
  unfold Session.place
  split <;> exact ⟨fun _ _ => rfl, rfl⟩

/-- A factory that fails leaves the sink as it was. -/
theorem traceless_acquire (unheld : session.sink.clientHeld = false) {error : ClientError}
    (failed : session.client.create.1 = .failed error) :
    session.acquire.1 = some error ∧ Traceless session session.acquire.2 := by
  have client := Client.withReplies_create failed
  simp only [acquire, unheld, failed, Bool.false_eq_true, if_false]
  refine ⟨trivial, fun queues partitioner => ?_, rfl⟩
  simp [pruned, clear, record, client]

theorem traceless_openAt (unheld : session.sink.clientHeld = false) {error : ClientError}
    (failed : session.client.create.1 = .failed error) (place : Place) :
    Traceless session (session.openAt place).2 := by
  have unheld : (session.place place).sink.clientHeld = false := by rwa [sink_place]
  have failed : (session.place place).client.create.1 = .failed error := by rwa [client_place]
  obtain ⟨answered, acquired⟩ := traceless_acquire unheld failed
  simp only [openAt, answered]
  exact (traceless_place session place).trans acquired

theorem traceless_passedOver (paired : session.Paired) {element : ε}
    (unasked : session.request? element = none) : Traceless session (session.invoke element).2 := by
  cases held : session.sink.clientHeld with
  | false =>
    rw [invoke_unopened held]
    exact .refl session
  | true =>
    obtain ⟨number, worker, known, hired⟩ := paired.opened held
    rw [invoke_hired known hired]
    cases logs : session.sink.schema session.clock element with
    | none => exact (Traceless.refl session).enter (by decide)
    | some group =>
      by_cases empty : group.logs.isEmpty = true
      · simp only [empty, if_true]
        exact .refl session
      · simp [request?, held, logs, empty] at unasked

/-- A refusal that takes no time is only reported. -/
theorem traceless_ship (instant : session.client.delayMs = 0) {error : ClientError}
    {number : Nat} (refused : session.client.refusal? number = some error) (worker : WorkerHandle)
    (request : LogRequest) : Traceless session (session.ship number worker request).2 := by
  have client := session.client.withReplies_send number
  have considered : session.considered = session.timeline := if_pos instant
  simp only [ship, considered, Client.send_of_refusal? refused]
  apply Traceless.enter _ (by simp [Event.target])
  refine ⟨fun queues partitioner => ?_, rfl⟩
  simp [pruned, clear, record, client]

theorem traceless_refused (paired : session.Paired) {element : ε} {request : LogRequest}
    (asked : session.request? element = some request) {error : ClientError}
    (refused : session.refusal? = some error) (instant : session.client.delayMs = 0) :
    Traceless session (session.invoke element).2 := by
  obtain ⟨opened, group, logs, full, rfl⟩ := request?_eq_some_iff.mp asked
  obtain ⟨number, worker, held, hired⟩ := paired.opened opened
  rw [refusal?, held, Option.bind_some] at refused
  rw [invoke_hired held hired, logs]
  dsimp only
  rw [if_neg (by simpa using full)]
  exact traceless_ship instant refused worker _

theorem traceless_close (paired : session.Paired) (unheld : session.sink.clientHeld = false) :
    Traceless session session.close := by
  have unhired : session.sink.worker = none := by
    rw [← Option.not_isSome_iff_eq_none, ← show session.sink.clientHeld = _ from paired, unheld]
    decide
  have closed : session.closeClient = session := closeClient_unopened unheld
  have dismissed : session.dismiss = session := by simp [dismiss, unhired]
  simp only [close, closed, dismissed]
  exact (Traceless.refl session).enter (by simp [Event.target])

theorem Futile.traceless {given : SessionStep ε} (futile : Futile session given)
    (paired : session.Paired) : Traceless session (session.perform given).2 := by
  cases futile with
  | openAt place unheld failed => exact traceless_openAt unheld failed place
  | passedOver element unasked => exact traceless_passedOver paired unasked
  | refused element asked refused instant => exact traceless_refused paired asked refused instant
  | close unheld => exact traceless_close paired unheld
  | queue queued =>
    obtain ⟨error, rfl | rfl⟩ := given.eq_of_queues queued <;> exact ⟨fun _ _ => rfl, rfl⟩

theorem Futile.clear {given : SessionStep ε} (futile : Futile session given) :
    Futile session.clear given := by
  cases futile with
  | openAt place unheld failed => exact .openAt place unheld failed
  | passedOver element unasked => exact .passedOver element unasked
  | refused element asked refused instant => exact .refused element asked refused instant
  | close unheld => exact .close unheld
  | queue queued => exact .queue queued

/-- After a futile step no task can run that could not run before it. -/
theorem Futile.step {given : SessionStep ε} (futile : Futile session given) (paired : session.Paired)
    (idle : session.timeline.ready = []) : Traceless session.clear (session.step given).2 := by
  have cleared : session.clear.Paired := paired
  have traceless := futile.clear.traceless cleared
  have timeline := congrArg Session.timeline (traceless.same (fun _ => []) none)
  have still : (session.clear.perform given).2.timeline.ready = [] :=
    (congrArg Timeline.ready timeline).trans idle
  have settled : (session.step given).2 = (session.clear.perform given).2 := by
    show (session.clear.perform given).2.settleReady = _
    rw [settleReady, Timeline.runReady_idle still]
  rw [settled]
  exact traceless

/-! What a futile step shows -/

theorem Futile.callbacks {given : SessionStep ε} (futile : Futile session given)
    (paired : session.Paired) (idle : session.timeline.ready = []) :
    (session.step given).1.callbacks = [] := by
  have none_entered := (futile.step paired idle).callbacks
  show ((session.step given).2.timeline.ledger.entries.reverse).filter Entry.isCallback = []
  rw [List.filter_reverse, none_entered]
  rfl

theorem Futile.accepted {given : SessionStep ε} (futile : Futile session given)
    (paired : session.Paired) : (session.step given).1.accepted = [] := by
  rw [SessionReport.accepted, calls_step paired]
  cases futile with
  | openAt place unheld failed =>
    simp only [callsOf, unheld, failed]
    split <;> rfl
  | passedOver element unasked =>
    simp only [callsOf, unasked]
    cases session.sink.held <;> rfl
  | refused element asked refused instant =>
    obtain ⟨number, held, refused⟩ := Option.bind_eq_some_iff.mp refused
    simp only [callsOf, held, asked, refused]
    rfl
  | close unheld =>
    simp only [callsOf, Sink.held_eq_none_iff.mpr unheld]
    rfl
  | queue queued => obtain ⟨error, rfl | rfl⟩ := given.eq_of_queues queued <;> rfl

/-! Replies -/

/-- The reply that a step has used, as its answer shows. A discarding client refuses without one. -/
def uses? (session : Session ε) : SessionStep ε → Option Reply
  | .openAt place =>
    match (session.step (.openAt place)).1.answer with
    | .failed (.creation _) => some .failure
    | _ => none
  | .invoke element =>
    match (session.step (.invoke element)).1.answer with
    | .failed (.submit _) => if session.client.kind = .scripted then some .refusal else none
    | _ => none
  | _ => none

theorem uses?_eq (paired : session.Paired) (given : SessionStep ε) :
    session.uses? given = session.used? given := by
  cases given with
  | openAt place =>
    rw [uses?, answer_openAt, used?]
    cases session.sink.clientHeld with
    | true => rfl
    | false => cases session.client.create.1 <;> rfl
  | invoke element =>
    rw [uses?, answer_invoke paired, used?]
    cases opened : session.sink.clientHeld with
    | false => simp [request?, opened]
    | true =>
      obtain ⟨number, held⟩ := Option.isSome_iff_exists.mp opened
      cases session.request? element with
      | none => rfl
      | some request =>
        simp only [if_true, Option.bind_some, refusal?, held, Client.refusalUsed?]
        cases session.client.refusal? number <;> simp
  | _ => rfl

/-- A reply that is used was queued. -/
theorem queued_of_used (holds : session.client.Holds queues) {given : SessionStep ε} {reply : Reply}
    (used : session.used? given = some reply) : queues reply ≠ [] := by
  have queued (replies : queues.whole reply ≠ []) : queues reply ≠ [] := by
    simpa [Queues.whole] using replies
  cases given with
  | openAt place =>
    simp only [used?] at used
    split at used
    · cases used
    · obtain ⟨error, failed, rfl⟩ := Option.map_eq_some_iff.mp used
      exact queued (holds.failures ▸ Client.factoryErrors_ne_nil (Creation.error?_eq_some_iff.mp failed))
  | invoke element =>
    obtain ⟨request, -, used⟩ := Option.bind_eq_some_iff.mp used
    obtain ⟨number, -, used⟩ := Option.bind_eq_some_iff.mp used
    unfold Client.refusalUsed? at used
    split at used
    · rename_i scripted
      obtain ⟨error, refused, rfl⟩ := Option.map_eq_some_iff.mp used
      exact queued (holds.refusals ▸ Client.rejections_ne_nil scripted refused)
    · cases used
  | _ => cases used

/-! Side by side -/

theorem pruned_congr {others : Queues} (same : others.staying = queues.staying) (session : Session ε) :
    session.pruned others partitioner = session.pruned queues partitioner := by
  simp only [pruned, same]

/-- A futile step installs no partitioner, and tells one its place only while no client is held. -/
theorem Futile.routes {given : SessionStep ε} (futile : Futile session given)
    (placed : Option (PlacedPartitioner ε)) :
    (given.routes placed).map PlacedPartitioner.partitioner =
        placed.map PlacedPartitioner.partitioner ∧
      (session.sink.clientHeld = true → given.routes placed = placed) := by
  cases futile with
  | openAt place unheld failed =>
    -- The place is told before the factory is asked, but no request is made until another is told.
    refine ⟨?_, fun held => absurd held (by simp [unheld])⟩
    simp [SessionStep.routes, Function.comp_def, PlacedPartitioner.put]
  | queue queued =>
    obtain ⟨error, rfl | rfl⟩ := given.eq_of_queues queued <;> exact ⟨rfl, fun _ => rfl⟩
  | _ => exact ⟨rfl, fun _ => rfl⟩

theorem Futile.installs {given : SessionStep ε} (futile : Futile session given) :
    given.installs? = none := by
  cases futile with
  | queue queued => obtain ⟨error, rfl | rfl⟩ := given.eq_of_queues queued <;> rfl
  | _ => rfl

/-- A futile step is left out, with the reply that it uses. -/
theorem Beside.left_out {twin : Session ε} (beside : Beside queues partitioner session twin)
    {given : SessionStep ε} (futile : Futile session given)
    (offers : queues.Offers (session.used? given) false) :
    Beside (queues.change (session.used? given) given.queues? false) partitioner
      (session.step given).2 twin := by
  have paired : session.clear.Paired := beside.paired
  have traceless := futile.step beside.paired beside.idle
  obtain ⟨installed, told⟩ := futile.routes session.sink.partitioner
  have routed := partitioner_step session given
  refine ⟨⟨?_, ?_, ?_, ?_⟩, ?_, (leaves_step beside.paired given).paired, Timeline.ready_runReady _⟩
  · have holds : session.clear.client.Holds queues := beside.prunes.holds
    rw [← used?_clear]
    exact holds_perform holds paired given false
  · rw [beside.prunes.same, routed, installed]
  · rw [routed]
    refine forgetful_routes beside.prunes.forgetful fun partitioner known => ?_
    cases futile.installs.symm.trans known
  · intro held element
    have same : (session.step given).2.sink.held = session.sink.held :=
      congrArg (·.sink.held) (traceless.same queues partitioner)
    have held : session.sink.clientHeld = true := (congrArg Option.isSome same).symm.trans held
    unfold Sink.shardKey
    rw [routed, told held]
    exact beside.prunes.keys held element
  · have staying := Queues.staying_change_left_out offers given.queues?
    calc twin.clear = session.clear.pruned queues partitioner := beside.twin
      _ = (session.step given).2.clear.pruned queues partitioner :=
        (traceless.same queues partitioner).symm
      _ = (session.step given).2.clear.pruned
          (queues.change (session.used? given) given.queues? false) partitioner :=
        (pruned_congr staying _).symm

end Session

/-! Scripts -/

/-- A step of a script, and whether it stays when others are left out. -/
structure Marked (ε : Type) where
  given : SessionStep ε
  stays : Bool

namespace Marked

/-- The script with all its steps. -/
def whole (script : List (Marked ε)) : List (SessionStep ε) := script.map given

/-- The script without the steps that are left out. -/
def remaining (script : List (Marked ε)) : List (SessionStep ε) :=
  (script.filter stays).map given

/-- The reports at the steps that stay. -/
def remainingReports (script : List (Marked ε)) (reports : List SessionReport) :
    List SessionReport :=
  ((script.zip reports).filter fun pair => pair.1.stays).map Prod.snd

/-- Whether a step stays, if it queues such a reply. -/
def queues (reply : Reply) (step : Marked ε) : List Bool :=
  match step.given.queues? with
  | some (other, _) => if other = reply then [step.stays] else []
  | none => []

/-- For each reply that the script queues, whether the step that queues it stays. -/
def queued (reply : Reply) (script : List (Marked ε)) : List Bool :=
  script.flatMap (queues reply)

/-- The partitioners that a script installs go by the last place only. -/
def Forgetful (script : List (Marked ε)) : Prop :=
  ∀ step ∈ script, ∀ partitioner, step.given.installs? = some partitioner → partitioner.Forgetful

end Marked

namespace Session

variable {session : Session ε} {queues : Queues} {partitioner : Option (PlacedPartitioner ε)}

/-- For each reply that a script uses, whether the step that uses it stays. -/
def usedBy (reply : Reply) (session : Session ε) : List (Marked ε) → List Bool
  | [] => []
  | first :: rest =>
    (if session.uses? first.given = some reply then [first.stays] else []) ++
      usedBy reply (session.step first.given).2 rest

/-- Every step that is left out is futile when it is taken, or only queues a reply. -/
def leavesOutFutile (session : Session ε) : List (Marked ε) → Bool
  | [] => true
  | first :: rest =>
    (first.stays || first.given.queues?.isSome || session.isFutile first.given) &&
      (session.step first.given).2.leavesOutFutile rest

/-- Steps may be left out of a script if they are futile, each with just the reply that it uses. The
replies are used in the order in which they are queued, and those that no step uses stay. -/
structure Deletable (session : Session ε) (script : List (Marked ε)) : Prop where
  futile : session.leavesOutFutile script = true
  replies : ∀ reply, ∃ unused, Marked.queued reply script =
    session.usedBy reply script ++ List.replicate unused true

/-- What is queued and what a script will queue is what it will use, with others that stay. -/
def Matches (queues : Queues) (session : Session ε) (script : List (Marked ε)) : Prop :=
  ∀ reply, ∃ unused, (queues reply).map Prod.snd ++ Marked.queued reply script =
    session.usedBy reply script ++ List.replicate unused true

theorem marks_change (queues : Queues) (used : Option Reply) (step : Marked ε) (reply : Reply) :
    (queues.change used step.given.queues? step.stays reply).map Prod.snd =
      (if used = some reply then ((queues reply).map Prod.snd).tail
        else (queues reply).map Prod.snd) ++ step.queues reply := by
  unfold Queues.change Marked.queues
  rw [List.map_append]
  congr 1
  · split <;> simp [List.map_tail]
  · rcases step.given.queues? with _ | ⟨other, error⟩
    · rfl
    · by_cases same : other = reply <;> simp [same]

/-- The next reply is the one that the step uses, so the rest of the script is matched again. -/
theorem Matches.step {step : Marked ε} {rest : List (Marked ε)}
    (matched : Matches queues session (step :: rest)) (holds : session.client.Holds queues)
    (paired : session.Paired) : queues.Offers (session.used? step.given) step.stays ∧
      Matches (queues.change (session.used? step.given) step.given.queues? step.stays)
        (session.step step.given).2 rest := by
  have next (reply : Reply) (used : session.used? step.given = some reply) :
      ∃ error others, queues reply = (error, step.stays) :: others := by
    obtain ⟨unused, same⟩ := matched reply
    rw [usedBy, uses?_eq paired, if_pos used] at same
    cases here : queues reply with
    | nil => exact absurd here (queued_of_used holds used)
    | cons first others =>
      obtain ⟨error, stays⟩ := first
      rw [here] at same
      obtain ⟨rfl, -⟩ := List.cons.inj same
      exact ⟨error, others, rfl⟩
  refine ⟨next, fun reply => ?_⟩
  obtain ⟨unused, same⟩ := matched reply
  refine ⟨unused, ?_⟩
  have queued : Marked.queued reply (step :: rest) =
      step.queues reply ++ Marked.queued reply rest := List.flatMap_cons
  rw [queued, usedBy, uses?_eq paired] at same
  rw [marks_change, List.append_assoc]
  by_cases used : session.used? step.given = some reply
  · obtain ⟨error, others, here⟩ := next reply used
    rw [if_pos used, here] at same ⊢
    exact (List.cons.inj same).2
  · rw [if_neg used] at same ⊢
    exact same

theorem futile_of_left_out {step : Marked ε} {rest : List (Marked ε)} (paired : session.Paired)
    (futile : session.leavesOutFutile (step :: rest) = true) (left_out : step.stays = false) :
    Futile session step.given := by
  rw [leavesOutFutile, left_out, Bool.false_or, Bool.and_eq_true, Bool.or_eq_true] at futile
  rcases futile.1 with queued | failed
  · exact .queue queued
  · exact futile_of_isFutile paired failed

/-- What is seen in reports, but not in those of futile steps, is all seen at the steps that stay. -/
theorem flatMap_remainingReports {α : Type} (seen : SessionReport → List α)
    (unseen : ∀ (other : Session ε) (given : SessionStep ε), Futile other given → other.Paired →
      other.timeline.ready = [] → seen (other.step given).1 = [])
    {script : List (Marked ε)} (paired : session.Paired) (idle : session.timeline.ready = [])
    (futile : session.leavesOutFutile script = true) :
    (Marked.remainingReports script (session.run (Marked.whole script))).flatMap seen =
      (session.run (Marked.whole script)).flatMap seen := by
  induction script generalizing session with
  | nil => rfl
  | cons step rest ih =>
    have left_out := futile_of_left_out paired futile
    rw [leavesOutFutile, Bool.and_eq_true] at futile
    have others := ih (leaves_step paired step.given).paired (Timeline.ready_runReady _) futile.2
    simp only [Marked.remainingReports, Marked.whole] at others ⊢
    cases stays : step.stays with
    | true => simp [Session.run, stays, others]
    | false => simp [Session.run, stays, others, unseen _ _ (left_out stays) paired idle]

/-- The run without the steps that are left out has the reports of the steps that stay. -/
theorem Beside.run {twin : Session ε} {script : List (Marked ε)}
    (beside : Beside queues partitioner session twin)
    (forgetful : Marked.Forgetful script)
    (futile : session.leavesOutFutile script = true) (matched : Matches queues session script) :
    twin.run (Marked.remaining script) =
      Marked.remainingReports script (session.run (Marked.whole script)) := by
  induction script generalizing session twin queues partitioner with
  | nil => rfl
  | cons step rest ih =>
    obtain ⟨offers, others⟩ := matched.step beside.prunes.holds beside.paired
    have left_out := futile_of_left_out beside.paired futile
    rw [leavesOutFutile, Bool.and_eq_true] at futile
    obtain ⟨first, forgetfulRest⟩ := List.forall_mem_cons.mp forgetful
    obtain ⟨given, stays⟩ := step
    cases stays with
    | true =>
      obtain ⟨same, after⟩ := beside.stays given first offers
      have later := ih after forgetfulRest futile.2 others
      simp only [Marked.remaining, Marked.remainingReports, Marked.whole] at later ⊢
      simp [Session.run, same, later]
    | false =>
      -- Only the whole run takes this step, and the twin waits for the next one.
      have later := ih (beside.left_out (left_out rfl) offers) forgetfulRest futile.2 others
      simp only [Marked.remaining, Marked.remainingReports, Marked.whole] at later ⊢
      simp [Session.run, later]

theorem beside_new (clock : UInt32) (kind : ClientKind) (fromFactory : Bool) (settings : Settings)
    (schema : UInt32 → ε → Option LogGroup) :
    let begun := Session.new clock (.fresh kind fromFactory) (Sink.new settings schema)
    Beside (fun _ => []) none begun begun :=
  ⟨⟨⟨rfl, rfl⟩, rfl, fun _ known => absurd known nofun, fun _ _ => rfl⟩, rfl, rfl, rfl⟩

/-- Operations that fail, or have nothing to do, leave no trace. A script of a sink may be run without
any of them, and without the replies that they use: all other steps are reported as before, and the
client has accepted the same requests, and the callbacks have entered the same. A partitioner that goes
by more than its last place could tell the openings apart that fail. -/
theorem futile_leaves_no_trace (clock : UInt32) (kind : ClientKind) (fromFactory : Bool)
    (settings : Settings) (schema : UInt32 → ε → Option LogGroup) (script : List (Marked ε)) :
    let begun := Session.new clock (.fresh kind fromFactory) (Sink.new settings schema)
    Marked.Forgetful script → begun.Deletable script →
      let whole := begun.run (Marked.whole script)
      let remaining := begun.run (Marked.remaining script)
      remaining = Marked.remainingReports script whole ∧
        remaining.flatMap SessionReport.accepted = whole.flatMap SessionReport.accepted ∧
        remaining.flatMap SessionReport.callbacks = whole.flatMap SessionReport.callbacks := by
  intro begun forgetful deletable whole remaining
  have beside : Beside (fun _ => []) none begun begun :=
    beside_new clock kind fromFactory settings schema
  have same : remaining = Marked.remainingReports script whole :=
    beside.run forgetful deletable.futile deletable.replies
  refine ⟨same, ?_, ?_⟩
  · rw [same]
    exact flatMap_remainingReports _ (fun _ _ futile paired _ => futile.accepted paired)
      beside.paired beside.idle deletable.futile
  · rw [same]
    exact flatMap_remainingReports _ (fun _ _ => Futile.callbacks) beside.paired beside.idle
      deletable.futile

/-- An opening fails at one place and succeeds at another, and two batches are refused before one is
accepted. The first refusal is left out, and the second one stays. -/
def refusedScript : List (Marked LogGroup) :=
  [⟨.setPartitioner .bySlice, true⟩, ⟨.invoke plainGroup, false⟩,
    ⟨.failFactoryNext .bufferFull, false⟩, ⟨.openAt ⟨0, 2⟩, false⟩, ⟨.openAt ⟨1, 2⟩, true⟩,
    ⟨.rejectNext .bufferFull, false⟩, ⟨.rejectNext .closed, true⟩, ⟨.invoke plainGroup, false⟩,
    ⟨.invoke ⟨[], "topic", "source"⟩, false⟩, ⟨.invoke plainGroup, true⟩,
    ⟨.invoke plainGroup, true⟩, ⟨.resolve [(0, .failed .dropped)], true⟩, ⟨.close, true⟩,
    ⟨.close, false⟩]

theorem futile_leaves_no_trace_refused :
    let begun := Session.new 0 (.fresh .scripted true) (Sink.new plainSettings fun _ => some)
    let remaining := begun.run (Marked.remaining refusedScript)
    Marked.Forgetful refusedScript ∧ begun.Deletable refusedScript ∧
      remaining = Marked.remainingReports refusedScript (begun.run (Marked.whole refusedScript)) ∧
      remaining.flatMap SessionReport.accepted = [⟨"project", "store", "topic", "source",
        some "7fffffffffffffffffffffffffffffff", [⟨0, []⟩]⟩] ∧
      remaining.flatMap SessionReport.callbacks = [.event (.batchFailed .dropped) 0,
        .event (.workerLate 0 0) 0, .event .workerStuck 0] := by
  intro begun remaining
  have forgetful : Marked.Forgetful refusedScript := by
    simp [Marked.Forgetful, refusedScript, SessionStep.installs?, Partitioner.forgetful_bySlice]
  have deletable : begun.Deletable refusedScript := by
    refine ⟨by decide +kernel, fun reply => ⟨0, ?_⟩⟩
    cases reply <;> decide +kernel
  obtain ⟨same, accepted, callbacks⟩ :=
    futile_leaves_no_trace 0 .scripted true plainSettings (fun _ => some) refusedScript forgetful
      deletable
  refine ⟨forgetful, deletable, same, ?_, ?_⟩
  · exact accepted.trans (by decide +kernel)
  · exact callbacks.trans (by decide +kernel)

end Session

end CheckpointSink
