import CheckpointSink.Proofs.Session.Lifecycle
import CheckpointSink.Proofs.Session.Routing
import CheckpointSink.Proofs.Settlement.Orderly

/-!
A session side by side with one that has fewer replies in its queues, and whose partitioner was not
told every place that it was told while no client was held. Both do the same at every step that uses no
reply, or one that both have, if a partitioner goes by the last place only.
-/

namespace CheckpointSink

open CheckpointSink.Settlement

variable {ε : Type}

/-- A partitioner goes by the place that it was told last, and forgets the others. -/
def Partitioner.Forgetful (partitioner : Partitioner ε) : Prop :=
  ∀ earlier place, partitioner.key (earlier ++ [place]) = partitioner.key [place]

theorem Partitioner.forgetful_bySlice : (bySlice : Partitioner ε).Forgetful := by
  intro earlier place
  simp only [bySlice, ofState, List.foldl_concat]
  rfl

/-- A reply that is queued for a later call. -/
inductive Reply where
  /-- The client refuses a batch. -/
  | refusal
  /-- The factory makes no client. -/
  | failure
  deriving DecidableEq

/-- The reply that a step queues. -/
def SessionStep.queues? : SessionStep ε → Option (Reply × ClientError)
  | rejectNext error => some (.refusal, error)
  | failFactoryNext error => some (.failure, error)
  | _ => none

/-- Queued replies, each with whether it stays. -/
abbrev Queues := Reply → List (ClientError × Bool)

namespace Queues

/-- All the replies. -/
def whole (queues : Queues) (reply : Reply) : List ClientError :=
  (queues reply).map Prod.fst

/-- The replies that stay. -/
def staying (queues : Queues) (reply : Reply) : List ClientError :=
  ((queues reply).filter Prod.snd).map Prod.fst

/-- A reply is used, or another one is queued. -/
def change (queues : Queues) (used : Option Reply) (queued : Option (Reply × ClientError))
    (stays : Bool) : Queues := fun reply =>
  (if used = some reply then (queues reply).tail else queues reply) ++
    match queued with
    | some (other, error) => if other = reply then [(error, stays)] else []
    | none => []

/-- The reply that is used is the next one, and it stays or not. -/
def Offers (queues : Queues) (used : Option Reply) (stays : Bool) : Prop :=
  ∀ reply, used = some reply → ∃ error rest, queues reply = (error, stays) :: rest

theorem change_none (queues : Queues) (stays : Bool) : queues.change none none stays = queues := by
  funext reply
  simp [change]

/-- Another reply that stays comes last. -/
theorem staying_queue (queues : Queues) (queued other : Reply) (error : ClientError) :
    (queues.change none (some (queued, error)) true).staying other =
      queues.staying other ++ if queued = other then [error] else [] := by
  by_cases this : queued = other <;> simp [staying, change, this]

theorem whole_queue (queues : Queues) (queued other : Reply) (error : ClientError) (stays : Bool) :
    (queues.change none (some (queued, error)) stays).whole other =
      queues.whole other ++ if queued = other then [error] else [] := by
  by_cases this : queued = other <;> simp [whole, change, this]

theorem whole_use (queues : Queues) (used other : Reply) (stays : Bool) :
    (queues.change (some used) none stays).whole other =
      if used = other then (queues.whole other).tail else queues.whole other := by
  by_cases this : used = other <;> simp [whole, change, this, List.map_tail]

/-- Without the replies that are left out nothing changes when one of them is used or queued. -/
theorem staying_change_left_out {queues : Queues} {used : Option Reply}
    (offers : queues.Offers used false) (queued : Option (Reply × ClientError)) :
    (queues.change used queued false).staying = queues.staying := by
  funext reply
  have left_out : (match queued with
      | some (other, error) => if other = reply then [(error, false)] else []
      | none => []).filter Prod.snd = [] := by
    rcases queued with _ | ⟨other, error⟩
    · rfl
    · by_cases this : other = reply <;> simp [this]
  simp only [staying, change, List.filter_append, left_out, List.append_nil]
  split
  · rename_i same
    obtain ⟨error, rest, here⟩ := offers reply same
    simp [here]
  · rfl

end Queues

namespace Client

def withReplies (client : Client) (replies : Reply → List ClientError) : Client :=
  { client with rejections := replies .refusal, factoryErrors := replies .failure }

/-- The replies that are queued with a client are those of the queues. -/
structure Holds (client : Client) (queues : Queues) : Prop where
  refusals : client.rejections = queues.whole .refusal
  failures : client.factoryErrors = queues.whole .failure

variable {client : Client} {queues : Queues}

theorem holds_create (holds : client.Holds queues) (stays : Bool) :
    client.create.2.Holds
      (queues.change (client.create.1.error?.map fun _ => .failure) none stays) := by
  have handedOut : client.handOut.2.Holds
      (queues.change (client.handOut.1.error?.map fun _ => .failure) none stays) := by
    rw [show client.handOut.1.error? = none from rfl, Option.map_none, Queues.change_none]
    exact ⟨holds.refusals, holds.failures⟩
  cases made : client.fromFactory with
  | false => simpa [create, made] using handedOut
  | true =>
    cases queued : client.factoryErrors with
    | nil => simpa [create, made, queued] using handedOut
    | cons error rest =>
      have same : client.create = (.failed error, { client with factoryErrors := rest }) := by
        simp [create, made, queued]
      rw [same]
      refine ⟨?_, ?_⟩ <;> rw [Creation.error?, Option.map_some, Queues.whole_use]
      · exact holds.refusals
      · rw [← holds.failures, queued]
        rfl

/-- A factory fails in the same way if only the replies that stay are queued. -/
theorem create_pruned (holds : client.Holds queues)
    (offers : queues.Offers (client.create.1.error?.map fun _ => .failure) true) :
    (client.withReplies queues.staying).create =
      (client.create.1, client.create.2.withReplies
        (queues.change (client.create.1.error?.map fun _ => .failure) none true).staying) := by
  have failures : client.factoryErrors = (queues .failure).map Prod.fst := holds.failures
  cases made : client.fromFactory with
  | false =>
    simp [create, handOut, withReplies, made, Creation.error?, Queues.change_none]
  | true =>
    cases queued : queues .failure with
    | nil =>
      rw [queued, List.map_nil] at failures
      simp [create, handOut, withReplies, made, failures, Creation.error?, Queues.change_none,
        Queues.staying, queued]
    | cons first rest =>
      rw [queued, List.map_cons] at failures
      have same : client.create =
          (.failed first.1, { client with factoryErrors := rest.map Prod.fst }) := by
        simp [create, made, failures]
      rw [same, Creation.error?, Option.map_some] at offers ⊢
      obtain ⟨error, others, here⟩ := offers .failure rfl
      rw [queued] at here
      cases here
      simp [create, withReplies, made, Queues.staying, queued, Queues.change]

/-- The reply that a send uses. A discarding client refuses without one. -/
def refusalUsed? (client : Client) (number : Nat) : Option Reply :=
  if client.kind = .scripted then (client.refusal? number).map fun _ => .refusal else none

theorem send_scripted (kind : client.kind = .scripted) (number : Nat) : client.send number =
    match client.rejections with
    | error :: rest => (.error error, { client with rejections := rest })
    | [] => (.ok client.automatic, client) := by
  cases queued : client.rejections <;> simp [send, kind, queued]

theorem send_discarding (kind : client.kind = .discarding) (number : Nat) :
    (client.send number).2 = client ∧ client.refusalUsed? number = none := by
  refine ⟨?_, by simp [refusalUsed?, kind]⟩
  simp only [send, kind]
  split <;> rfl

theorem holds_send (holds : client.Holds queues) (number : Nat) (stays : Bool) :
    (client.send number).2.Holds (queues.change (client.refusalUsed? number) none stays) := by
  cases kind : client.kind with
  | discarding =>
    obtain ⟨same, unused⟩ := send_discarding kind number
    rw [same, unused, Queues.change_none]
    exact holds
  | scripted =>
    have sent := send_scripted kind number
    cases queued : client.rejections with
    | nil =>
      rw [queued] at sent
      have unused : client.refusalUsed? number = none := by
        simp [refusalUsed?, refusal?, kind, sent]
      rw [sent, unused, Queues.change_none]
      exact holds
    | cons error rest =>
      rw [queued] at sent
      have used : client.refusalUsed? number = some .refusal := by
        simp [refusalUsed?, refusal?, kind, sent]
      rw [sent, used]
      refine ⟨?_, ?_⟩ <;> rw [Queues.whole_use]
      · rw [← holds.refusals, queued]
        rfl
      · exact holds.failures

/-- A client refuses in the same way if only the replies that stay are queued. -/
theorem send_pruned (holds : client.Holds queues) {number : Nat}
    (offers : queues.Offers (client.refusalUsed? number) true) :
    (client.withReplies queues.staying).send number =
      ((client.send number).1, (client.send number).2.withReplies
        (queues.change (client.refusalUsed? number) none true).staying) := by
  have refusals : client.rejections = (queues .refusal).map Prod.fst := holds.refusals
  cases kind : client.kind with
  | discarding =>
    obtain ⟨same, unused⟩ := send_discarding kind number
    have closed : (client.withReplies queues.staying).isClosed number = client.isClosed number := rfl
    have kinds : (client.withReplies queues.staying).kind = .discarding := kind
    rw [unused, same, Queues.change_none]
    simp only [send, kinds, kind, closed]
    split <;> rfl
  | scripted =>
    have sent := send_scripted kind number
    cases queued : queues .refusal with
    | nil =>
      rw [refusals, queued, List.map_nil] at sent
      have unused : client.refusalUsed? number = none := by
        simp [refusalUsed?, refusal?, kind, sent]
      rw [unused, sent, Queues.change_none]
      simp [send, withReplies, kind, Queues.staying, queued]
    | cons first rest =>
      rw [refusals, queued, List.map_cons] at sent
      have used : client.refusalUsed? number = some .refusal := by
        simp [refusalUsed?, refusal?, kind, sent]
      rw [used] at offers ⊢
      rw [sent]
      obtain ⟨error, others, here⟩ := offers .refusal rfl
      rw [queued] at here
      cases here
      simp [send, withReplies, kind, Queues.staying, queued, Queues.change]

theorem close_pruned (client : Client) (queues : Queues) (number : Nat) :
    (client.withReplies queues.staying).close number =
      ((client.close number).1, (client.close number).2.withReplies queues.staying) := by
  cases kind : client.kind <;> simp [close, withReplies, kind, identity]

end Client

namespace Session

variable {session : Session ε} {queues : Queues} {partitioner : Option (PlacedPartitioner ε)}

/-- The session with only those replies that stay, and with another partitioner. -/
def pruned (session : Session ε) (queues : Queues) (partitioner : Option (PlacedPartitioner ε)) :
    Session ε :=
  { session with
    client := session.client.withReplies queues.staying
    sink := { session.sink with partitioner } }

/-- The replies of a session are those of the queues, and a partitioner differs from its own at most
in the places that it was told, and in its keys only while no client is held. -/
structure Prunes (session : Session ε) (queues : Queues)
    (partitioner : Option (PlacedPartitioner ε)) : Prop where
  holds : session.client.Holds queues
  same : partitioner.map PlacedPartitioner.partitioner =
    session.sink.partitioner.map PlacedPartitioner.partitioner
  forgetful : ∀ placed, session.sink.partitioner = some placed → placed.partitioner.Forgetful
  keys : session.sink.clientHeld = true → ∀ element,
    { session.sink with partitioner }.shardKey element = session.sink.shardKey element

/-- The reply that a step uses. -/
def used? (session : Session ε) : SessionStep ε → Option Reply
  | .openAt _ =>
    if session.sink.clientHeld then none
    else session.client.create.1.error?.map fun _ => .failure
  | .invoke element =>
    (session.request? element).bind fun _ => session.sink.held.bind session.client.refusalUsed?
  | _ => none

/-- What an operation returns, with the session after it in the same way. -/
def prunedTo {α : Type} (queues : Queues) (partitioner : Option (PlacedPartitioner ε))
    (done : α × Session ε) : α × Session ε :=
  (done.1, done.2.pruned queues partitioner)

/-! Opening -/

theorem place_pruned (prunes : Prunes session queues partitioner) (place : Place) :
    (session.pruned queues partitioner).place place =
      (session.place place).pruned queues (partitioner.map (·.put place)) := by
  have watched : (session.pruned queues partitioner).sink.isWatched = session.sink.isWatched := by
    have same := congrArg (Option.any Partitioner.watched) prunes.same
    rw [Option.any_map, Option.any_map] at same
    exact same
  unfold Session.place
  rw [watched]
  split <;> rfl

theorem acquire_pruned (holds : session.client.Holds queues) {place : Place}
    (offers : queues.Offers (session.used? (.openAt place)) true) :
    (session.pruned queues partitioner).acquire =
      prunedTo (queues.change (session.used? (.openAt place)) none true) partitioner
        session.acquire := by
  cases held : session.sink.clientHeld with
  | true =>
    have unused : session.used? (.openAt place) = none := by simp [used?, held]
    have holding : (session.pruned queues partitioner).sink.clientHeld = true := held
    simp only [acquire, unused, Queues.change_none, prunedTo, held, holding, if_true]
  | false =>
    have used : session.used? (.openAt place) =
        session.client.create.1.error?.map fun _ => .failure := by simp [used?, held]
    have closed : (session.pruned queues partitioner).sink.clientHeld = false := held
    rw [used] at offers ⊢
    have created : (session.pruned queues partitioner).client.create = _ :=
      Client.create_pruned holds offers
    generalize queues.change (session.client.create.1.error?.map fun _ => Reply.failure) none true =
      later at created ⊢
    simp only [acquire, prunedTo, held, closed, created, Bool.false_eq_true, if_false]
    cases session.client.create.1 <;> rfl

theorem employ_pruned : (session.pruned queues partitioner).employ =
    session.employ.pruned queues partitioner := by
  cases hired : session.sink.worker <;> simp [employ, pruned, hired]

theorem openAt_pruned (prunes : Prunes session queues partitioner) {place : Place}
    (offers : queues.Offers (session.used? (.openAt place)) true) :
    (session.pruned queues partitioner).openAt place =
      prunedTo (queues.change (session.used? (.openAt place)) none true)
        (partitioner.map (·.put place)) (session.openAt place) := by
  have holds : (session.place place).client.Holds queues := by
    rw [client_place]
    exact prunes.holds
  have same : (session.place place).used? (.openAt place) = session.used? (.openAt place) := by
    simp only [used?, client_place, sink_place]
    rfl
  have acquired : ((session.place place).pruned queues (partitioner.map (·.put place))).acquire = _ :=
    acquire_pruned holds (same ▸ offers)
  unfold openAt
  rw [place_pruned prunes, acquired, same]
  dsimp only [prunedTo]
  cases (session.place place).acquire.1 with
  | some error => rfl
  | none =>
    dsimp only
    rw [employ_pruned]
    rfl

theorem client_openAt (session : Session ε) (place : Place) : (session.openAt place).2.client =
    if session.sink.clientHeld then session.client else session.client.create.2 := by
  have acquired : (session.place place).acquire.2.client =
      if session.sink.clientHeld then session.client else session.client.create.2 := by
    have client := (acquire_eq (session.place place)).2.2.2
    rw [client_place, sink_place] at client
    exact client
  rw [← acquired]
  unfold openAt
  dsimp only
  split
  · rfl
  · unfold employ
    split <;> rfl

/-! Shipping -/

theorem ship_pruned (holds : session.client.Holds queues) {number : Nat}
    (offers : queues.Offers (session.client.refusalUsed? number) true) (worker : WorkerHandle)
    (request : LogRequest) : (session.pruned queues partitioner).ship number worker request =
      prunedTo (queues.change (session.client.refusalUsed? number) none true) partitioner
        (session.ship number worker request) := by
  have sent := Client.send_pruned holds offers
  simp only [ship, pruned, prunedTo, sent]
  cases (session.client.send number).1 <;> rfl

theorem invoke_pruned (prunes : Prunes session queues partitioner) (paired : session.Paired)
    {element : ε} (offers : queues.Offers (session.used? (.invoke element)) true) :
    (session.pruned queues partitioner).invoke element =
      prunedTo (queues.change (session.used? (.invoke element)) none true) partitioner
        (session.invoke element) := by
  cases opened : session.sink.clientHeld with
  | false =>
    have unused : session.used? (.invoke element) = none := by simp [used?, request?, opened]
    have closed : (session.pruned queues partitioner).sink.clientHeld = false := opened
    rw [invoke_unopened opened, invoke_unopened closed, unused, Queues.change_none]
    rfl
  | true =>
    obtain ⟨number, worker, held, hired⟩ := paired.opened opened
    have holds : (session.pruned queues partitioner).sink.held = some number := held
    have hires : (session.pruned queues partitioner).sink.worker = some worker := hired
    have elements : (session.pruned queues partitioner).sink.schema
        (session.pruned queues partitioner).clock element =
          session.sink.schema session.clock element := rfl
    rw [invoke_hired held hired, invoke_hired holds hires, elements]
    cases logs : session.sink.schema session.clock element with
    | none =>
      have unused : session.used? (.invoke element) = none := by
        simp [used?, request?, opened, logs]
      rw [unused, Queues.change_none]
      rfl
    | some group =>
      dsimp only
      by_cases empty : group.logs.isEmpty = true
      · have unused : session.used? (.invoke element) = none := by
          simp [used?, request?, opened, logs, empty]
        rw [unused, Queues.change_none, if_pos empty, if_pos empty]
        rfl
      · have used : session.used? (.invoke element) = session.client.refusalUsed? number := by
          simp [used?, request?, opened, held, logs, empty]
        have request : (session.pruned queues partitioner).sink.request element group =
            session.sink.request element group := by
          have key : (session.pruned queues partitioner).sink.shardKey element =
              session.sink.shardKey element := prunes.keys opened element
          rw [Sink.request, key]
          rfl
        rw [used] at offers ⊢
        rw [if_neg empty, if_neg empty, request]
        exact ship_pruned prunes.holds offers worker _

theorem client_invoke (paired : session.Paired) (element : ε) : (session.invoke element).2.client =
    match session.sink.held, session.request? element with
    | some number, some _ => (session.client.send number).2
    | _, _ => session.client := by
  cases opened : session.sink.clientHeld with
  | false =>
    rw [invoke_unopened opened, Sink.held_eq_none_iff.mpr opened]
  | true =>
    obtain ⟨number, worker, held, hired⟩ := paired.opened opened
    simp only [invoke_hired held hired, held, request?, opened, if_true]
    cases session.sink.schema session.clock element with
    | none => rfl
    | some group =>
      dsimp only
      split
      · rfl
      · simp only [ship]
        cases (session.client.send number).1 <;> rfl

/-! Closing -/

theorem closeClient_pruned : (session.pruned queues partitioner).closeClient =
    session.closeClient.pruned queues partitioner := by
  cases held : session.sink.held with
  | none =>
    have closed := Sink.held_eq_none_iff.mp held
    have unheld : (session.pruned queues partitioner).sink.clientHeld = false := closed
    rw [closeClient_unopened closed, closeClient_unopened unheld]
  | some number =>
    have closed := session.client.close_pruned queues number
    simp only [closeClient, pruned, held, closed]
    cases (session.client.close number).1 <;> rfl

theorem dismiss_pruned : (session.pruned queues partitioner).dismiss =
    session.dismiss.pruned queues partitioner := by
  cases hired : session.sink.worker <;> simp [dismiss, pruned, hired]

theorem close_pruned : (session.pruned queues partitioner).close =
    session.close.pruned queues partitioner := by
  simp only [close, closeClient_pruned, dismiss_pruned]
  rfl

theorem client_close (session : Session ε) : session.close.client =
    match session.sink.held with
    | some number => (session.client.close number).2
    | none => session.client := by
  have dismissed : session.close.client = session.closeClient.client :=
    (dismiss_same session.closeClient).2.1
  rw [dismissed]
  unfold closeClient
  cases session.sink.held with
  | none => rfl
  | some number =>
    dsimp only
    split <;> rfl

/-! Steps -/

theorem snapshot_pruned : (session.pruned queues partitioner).snapshot =
    prunedTo queues partitioner session.snapshot := by
  have held : (session.pruned queues partitioner).sink.clientHeld = session.sink.clientHeld := rfl
  unfold snapshot
  rw [held]
  split <;> rfl

/-- A session does the same with only the replies that stay, if what it uses or queues stays. -/
theorem perform_pruned (prunes : Prunes session queues partitioner) (paired : session.Paired)
    (given : SessionStep ε) (offers : queues.Offers (session.used? given) true) :
    (session.pruned queues partitioner).perform given =
      prunedTo (queues.change (session.used? given) given.queues? true)
        (given.routes partitioner) (session.perform given) := by
  have kept := queues.change_none true
  cases given with
  | openAt place =>
    simp only [perform, openAt_pruned prunes offers]
    rfl
  | invoke element =>
    simp only [perform, invoke_pruned prunes paired offers]
    rfl
  | close =>
    simp only [perform, close_pruned, used?, SessionStep.queues?, kept]
    rfl
  | snapshot =>
    simp only [perform, snapshot_pruned, used?, SessionStep.queues?, kept]
    rfl
  | rejectNext error | failFactoryNext error =>
    simp [perform, onClient, pruned, prunedTo, Client.withReplies, used?, SessionStep.queues?,
      SessionStep.routes, Queues.staying_queue]
  | _ =>
    simp only [used?, SessionStep.queues?, kept]
    rfl

/-- The replies after a step, whether what it uses or queues stays or not. -/
theorem holds_perform (holds : session.client.Holds queues) (paired : session.Paired)
    (given : SessionStep ε) (stays : Bool) : (session.perform given).2.client.Holds
      (queues.change (session.used? given) given.queues? stays) := by
  have kept := queues.change_none stays
  cases given with
  | openAt place =>
    show (session.openAt place).2.client.Holds _
    rw [client_openAt]
    simp only [used?, SessionStep.queues?]
    split
    · rw [kept]
      exact holds
    · exact Client.holds_create holds stays
  | invoke element =>
    show (session.invoke element).2.client.Holds _
    rw [client_invoke paired]
    simp only [used?, SessionStep.queues?]
    cases session.sink.held with
    | none =>
      simp only [Option.bind_none, Option.bind_fun_none, kept]
      exact holds
    | some number =>
      cases session.request? element with
      | none =>
        rw [Option.bind_none, kept]
        exact holds
      | some request => exact Client.holds_send holds number stays
  | close =>
    show session.close.client.Holds _
    simp only [used?, SessionStep.queues?, kept, client_close]
    cases session.sink.held with
    | none => exact holds
    | some number =>
      dsimp only
      unfold Client.close
      split <;> exact ⟨holds.refusals, holds.failures⟩
  | snapshot =>
    simp only [perform, snapshot, used?, SessionStep.queues?, kept]
    split <;> exact holds
  | rejectNext error | failFactoryNext error =>
    refine ⟨?_, ?_⟩
    · simp [perform, onClient, used?, SessionStep.queues?, Queues.whole_queue, holds.refusals]
    · simp [perform, onClient, used?, SessionStep.queues?, Queues.whole_queue, holds.failures]
  | _ =>
    simp only [used?, SessionStep.queues?, kept]
    exact ⟨holds.refusals, holds.failures⟩

theorem routes_same {first second : Option (PlacedPartitioner ε)}
    (same : first.map PlacedPartitioner.partitioner = second.map PlacedPartitioner.partitioner)
    (given : SessionStep ε) : (given.routes first).map PlacedPartitioner.partitioner =
      (given.routes second).map PlacedPartitioner.partitioner := by
  cases given with
  | openAt place => simpa [SessionStep.routes, Function.comp_def, PlacedPartitioner.put] using same
  | setPartitioner => rfl
  | _ => exact same

/-- A partitioner that goes by the last place has the same keys whatever it was told before it. -/
theorem key_put (sink : Sink ε) {first second : Option (PlacedPartitioner ε)}
    (same : first.map PlacedPartitioner.partitioner = second.map PlacedPartitioner.partitioner)
    (forgetful : ∀ placed, second = some placed → placed.partitioner.Forgetful) (place : Place)
    (element : ε) :
    { sink with partitioner := first.map (PlacedPartitioner.put · place) }.shardKey element =
      { sink with partitioner := second.map (PlacedPartitioner.put · place) }.shardKey element := by
  rcases first with _ | ⟨partitioner, told⟩ <;> rcases second with _ | ⟨other, places⟩
  · rfl
  · cases same
  · cases same
  · cases same
    have forgets := forgetful _ rfl
    show partitioner.key (told ++ [place]) element = partitioner.key (places ++ [place]) element
    rw [forgets, forgets places]

theorem forgetful_routes {placed : Option (PlacedPartitioner ε)} {given : SessionStep ε}
    (forgetful : ∀ known, placed = some known → known.partitioner.Forgetful)
    (installed : ∀ partitioner, given.installs? = some partitioner → partitioner.Forgetful) :
    ∀ known, given.routes placed = some known → known.partitioner.Forgetful := by
  intro known found
  cases given with
  | openAt place =>
    obtain ⟨before, was, rfl⟩ := Option.map_eq_some_iff.mp found
    exact forgetful before was
  | setPartitioner partitioner =>
    cases found
    exact installed partitioner rfl
  | _ => exact forgetful known found

/-- An opening tells both partitioners the same, and while a client is held both know it. -/
theorem Prunes.perform (prunes : Prunes session queues partitioner) (paired : session.Paired)
    (uncalled : session.calls = []) (given : SessionStep ε)
    (installed : ∀ partitioner, given.installs? = some partitioner → partitioner.Forgetful)
    (stays : Bool) :
    Prunes (session.perform given).2 (queues.change (session.used? given) given.queues? stays)
      (given.routes partitioner) where
  holds := holds_perform prunes.holds paired given stays
  same := by
    rw [(reroutes_perform session given).partitioner]
    exact routes_same prunes.same given
  forgetful := by
    rw [(reroutes_perform session given).partitioner]
    exact forgetful_routes prunes.forgetful installed
  keys := by
    intro held element
    rw [(leaves_perform uncalled paired given).clientHeld] at held
    have rerouted := (reroutes_perform session given).partitioner
    unfold Sink.shardKey
    rw [rerouted]
    cases given with
    | openAt place => exact key_put session.sink prunes.same prunes.forgetful place element
    | setPartitioner => rfl
    | close => cases held
    | _ => exact prunes.keys held element

/-! Side by side -/

/-- A session in the whole run and the session at the same place in the run without some steps. -/
structure Beside (queues : Queues) (partitioner : Option (PlacedPartitioner ε))
    (session twin : Session ε) : Prop where
  prunes : Prunes session queues partitioner
  twin : twin.clear = session.clear.pruned queues partitioner
  paired : session.Paired
  idle : session.timeline.ready = []

theorem used?_clear (session : Session ε) (given : SessionStep ε) :
    session.clear.used? given = session.used? given := by
  cases given <;> rfl

/-- A step that stays is reported in the same way in both runs. -/
theorem Beside.stays {twin : Session ε} (beside : Beside queues partitioner session twin)
    (given : SessionStep ε)
    (installed : ∀ partitioner, given.installs? = some partitioner → partitioner.Forgetful)
    (offers : queues.Offers (session.used? given) true) :
    (twin.step given).1 = (session.step given).1 ∧
      Beside (queues.change (session.used? given) given.queues? true) (given.routes partitioner)
        (session.step given).2 (twin.step given).2 := by
  have cleared : Prunes session.clear queues partitioner :=
    ⟨beside.prunes.holds, beside.prunes.same, beside.prunes.forgetful, beside.prunes.keys⟩
  have paired : session.clear.Paired := beside.paired
  rw [← used?_clear] at offers ⊢
  have performed := perform_pruned cleared paired given offers
  have after := cleared.perform paired rfl given installed true
  have same : twin.step given = ((session.step given).1, (session.step given).2.pruned
      (queues.change (session.clear.used? given) given.queues? true)
        (given.routes partitioner)) := by
    simp only [Session.step, beside.twin, performed]
    rfl
  rw [same]
  exact ⟨rfl, ⟨after.holds, after.same, after.forgetful, after.keys⟩, rfl,
    (leaves_step beside.paired given).paired, Timeline.ready_runReady _⟩

end Session
end CheckpointSink
