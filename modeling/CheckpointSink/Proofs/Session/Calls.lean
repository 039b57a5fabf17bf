import CheckpointSink.Session.Script
import Mathlib.Data.List.Induction

/-!
The calls that each step of a session makes, and the client that it leaves the sink with. The calls of
a whole script hand out and close one client after the other, and every batch goes to the one that was
handed out last.
-/

namespace CheckpointSink

open CheckpointSink.Settlement

/-- The error with which the client with a number refuses the next batch. -/
def Client.refusal? (client : Client) (number : Nat) : Option ClientError :=
  match (client.send number).1 with
  | .error error => some error
  | .ok _ => none

/-- A factory that fails hands out no number, and any other the next one. -/
theorem Client.create_cases (client : Client) :
    (∃ error, client.create.1 = .failed error ∧ client.create.2.handedOut = client.handedOut) ∨
      client.create.1 = .handedOut client.handedOut ∧
        client.create.2.handedOut = client.handedOut + 1 := by
  unfold create
  split
  · split
    · exact .inl ⟨_, rfl, rfl⟩
    · exact .inr ⟨rfl, rfl⟩
  · exact .inr ⟨rfl, rfl⟩

theorem Client.handedOut_send (client : Client) (number : Nat) :
    (client.send number).2.handedOut = client.handedOut := by
  unfold send
  split <;> split <;> rfl

theorem Client.handedOut_close (client : Client) (number : Nat) :
    (client.close number).2.handedOut = client.handedOut := by
  unfold close
  split <;> rfl

/-- The number of the client that is held, and the number that is handed out next. -/
structure Holding where
  held : Option Nat
  next : Nat

namespace Session

variable {ε : Type}

def holding (session : Session ε) : Holding :=
  ⟨session.sink.held, session.client.handedOut⟩

/-- A client is held if and only if a worker is. -/
def Paired (session : Session ε) : Prop :=
  session.sink.clientHeld = session.sink.worker.isSome

/-- The request for an element, unless the sink is closed or the element has no logs. -/
def request? (session : Session ε) (element : ε) : Option LogRequest :=
  if session.sink.clientHeld then
    match session.sink.schema session.clock element with
    | none => none
    | some group => if group.logs.isEmpty then none else some (session.sink.request element group)
  else none

/-- The error with which the client that is held refuses the next batch. -/
def refusal? (session : Session ε) : Option ClientError :=
  session.sink.held.bind session.client.refusal?

def callsOf (session : Session ε) : SessionStep ε → List Call
  | .openAt place =>
    (if session.sink.isWatched then [.place place] else []) ++
      if session.sink.clientHeld then []
      else [.create session.sink.settings.client session.sink.settings.destination
        session.client.create.1]
  | .invoke element =>
    match session.sink.held, session.request? element with
    | some number, some request => [.send number request (session.client.refusal? number)]
    | _, _ => []
  | .close =>
    match session.sink.held with
    | some number => [.close number (session.client.close number).1]
    | none => []
  | _ => []

/-- The client that is held after a step, and the number that is handed out next. -/
def holdingAfter (session : Session ε) : SessionStep ε → Holding
  | .openAt _ =>
    if session.sink.clientHeld then session.holding
    else ⟨session.client.create.1.number?, session.client.create.2.handedOut⟩
  | .close => ⟨none, session.client.handedOut⟩
  | _ => session.holding

/-- What a step leaves behind: its calls, and a client with its worker or neither of them. -/
structure Leaves (session : Session ε) (calls : List Call) (holding : Holding) : Prop where
  calls : session.calls = calls.reverse
  holding : session.holding = holding
  paired : session.Paired

section

variable {session : Session ε}

theorem Paired.hired (paired : session.Paired) (held : session.sink.clientHeld = true) :
    ∃ worker, session.sink.worker = some worker :=
  Option.isSome_iff_exists.mp (paired.symm.trans held)

/-- An open sink holds a client and a worker. -/
theorem Paired.opened (paired : session.Paired) (held : session.sink.clientHeld = true) :
    ∃ number worker, session.sink.held = some number ∧ session.sink.worker = some worker := by
  obtain ⟨number, known⟩ := Option.isSome_iff_exists.mp held
  obtain ⟨worker, hired⟩ := paired.hired held
  exact ⟨number, worker, known, hired⟩

theorem Leaves.clientHeld {calls : List Call} {holding : Holding}
    (leaves : Leaves session calls holding) : session.sink.clientHeld = holding.held.isSome :=
  congrArg (fun holding => holding.held.isSome) leaves.holding

theorem Leaves.of_same {later : Session ε} {calls : List Call} {holding : Holding}
    (leaves : Leaves session calls holding) (sameCalls : later.calls = session.calls)
    (sameHolding : later.holding = session.holding)
    (sameWorker : later.sink.worker = session.sink.worker) : Leaves later calls holding where
  calls := sameCalls.trans leaves.calls
  holding := sameHolding.trans leaves.holding
  paired := by
    have sameHeld : later.sink.held = session.sink.held := congrArg Holding.held sameHolding
    unfold Paired Sink.clientHeld
    rw [sameHeld, sameWorker]
    exact leaves.paired

/-! Opening -/

theorem calls_place (session : Session ε) (place : Place) :
    (session.place place).calls =
      (if session.sink.isWatched then [Call.place place] else []) ++ session.calls := by
  unfold Session.place
  split <;> rfl

theorem sink_place (session : Session ε) (place : Place) :
    (session.place place).sink = session.sink.place place := by
  unfold Session.place
  split <;> rfl

theorem client_place (session : Session ε) (place : Place) :
    (session.place place).client = session.client := by
  unfold Session.place
  split <;> rfl

/-- A client is made unless one is held. -/
theorem acquire_eq (session : Session ε) :
    session.acquire.1 =
        (if session.sink.clientHeld then none else session.client.create.1.error?) ∧
      session.acquire.2.calls = (if session.sink.clientHeld then []
        else [.create session.sink.settings.client session.sink.settings.destination
          session.client.create.1]) ++ session.calls ∧
      session.acquire.2.sink = { session.sink with
        held := session.sink.held.or session.client.create.1.number? } ∧
      session.acquire.2.client =
        if session.sink.clientHeld then session.client else session.client.create.2 := by
  cases held : session.sink.held with
  | some number =>
    simp only [Session.acquire, Sink.clientHeld_of_held held, if_true, List.nil_append, Option.some_or,
      true_and, and_true]
    rw [← held]
  | none =>
    have closed := Sink.held_eq_none_iff.mp held
    simp only [Session.acquire, closed, Bool.false_eq_true, if_false, Option.none_or]
    cases session.client.create.1 with
    | handedOut number => exact ⟨rfl, rfl, rfl, rfl⟩
    | failed error =>
      refine ⟨rfl, rfl, ?_, rfl⟩
      show session.sink = { session.sink with held := none }
      rw [← held]

theorem employ_same (session : Session ε) : session.employ.calls = session.calls ∧
    session.employ.holding = session.holding ∧ session.employ.sink.worker.isSome = true := by
  unfold Session.employ
  split
  · rename_i held
    exact ⟨rfl, rfl, by simp [held]⟩
  · exact ⟨rfl, rfl, rfl⟩

theorem holding_acquire (session : Session ε) (place : Place) :
    (session.place place).acquire.2.holding = session.holdingAfter (.openAt place) := by
  obtain ⟨-, -, sink, client⟩ := acquire_eq (session.place place)
  rw [client_place, sink_place] at client sink
  rw [holding, sink, client]
  cases held : session.sink.held <;>
    simp [holdingAfter, holding, Sink.place, Sink.clientHeld, held]

theorem leaves_openAt (cleared : session.calls = []) (paired : session.Paired) (place : Place) :
    Leaves (session.openAt place).2 (session.callsOf (.openAt place))
      (session.holdingAfter (.openAt place)) := by
  obtain ⟨answer, calls, sink, -⟩ := acquire_eq (session.place place)
  rw [client_place, sink_place] at answer calls sink
  rw [calls_place, cleared, List.append_nil] at calls
  have watched : (if session.sink.isWatched then [Call.place place] else []).reverse =
      if session.sink.isWatched then [Call.place place] else [] := by
    split <;> rfl
  have reversed : (session.place place).acquire.2.calls =
      (session.callsOf (.openAt place)).reverse := by
    rw [calls, callsOf, List.reverse_append, watched]
    congr 1
    show (if session.sink.clientHeld then _ else _) = _
    split <;> rfl
  have holding := holding_acquire session place
  rw [Session.openAt]
  cases failed : (session.place place).acquire.1 with
  | some error =>
    refine ⟨reversed, holding, ?_⟩
    rw [failed] at answer
    cases held : session.sink.held with
    | some number => simp [Sink.place, Sink.clientHeld, held] at answer
    | none =>
      have unpaired : session.sink.worker.isSome = false := by
        rw [← show session.sink.clientHeld = _ from paired, Sink.clientHeld, held]
        rfl
      cases created : session.client.create.1 with
      | handedOut number => simp [Sink.place, Sink.clientHeld, held, created, Creation.error?] at answer
      | failed error =>
        simp [Paired, sink, Sink.place, Sink.clientHeld, held, unpaired, created, Creation.number?]
  | none =>
    obtain ⟨sameCalls, sameHolding, hired⟩ := employ_same (session.place place).acquire.2
    refine ⟨sameCalls.trans reversed, sameHolding.trans holding, ?_⟩
    have opened : (session.place place).acquire.2.sink.clientHeld = true := by
      rw [failed] at answer
      rw [sink]
      cases held : session.sink.held <;> cases created : session.client.create.1 <;>
        simp_all [Sink.place, Sink.clientHeld, Creation.error?, Creation.number?]
    have kept : (session.place place).acquire.2.employ.sink.clientHeld =
        (session.place place).acquire.2.sink.clientHeld :=
      congrArg (fun holding => holding.held.isSome) sameHolding
    exact (kept.trans opened).trans hired.symm

/-! Shipping -/

theorem leaves_alone (cleared : session.calls = []) (paired : session.Paired) {later : Session ε}
    (sameCalls : later.calls = session.calls) (sameHolding : later.holding = session.holding)
    (sameWorker : later.sink.worker = session.sink.worker) : Leaves later [] session.holding :=
  Leaves.of_same ⟨cleared, rfl, paired⟩ sameCalls sameHolding sameWorker

theorem leaves_ship (cleared : session.calls = []) (paired : session.Paired) (number : Nat)
    (worker : WorkerHandle) (request : LogRequest) :
    Leaves (session.ship number worker request).2
      [.send number request (session.client.refusal? number)] session.holding := by
  have recorded (error : Option ClientError) :
      Leaves (session.record (.send number request error)) [.send number request error]
        session.holding :=
    ⟨congrArg (List.cons _) cleared, rfl, paired⟩
  have same : (⟨session.sink.held, (session.client.send number).2.handedOut⟩ : Holding) =
      session.holding := by
    rw [Client.handedOut_send]
    rfl
  simp only [Session.ship, Client.refusal?]
  cases (session.client.send number).1 with
  | error error => exact (recorded (some error)).of_same rfl same rfl
  | ok delivered => exact (recorded none).of_same rfl same rfl

theorem invoke_unopened (closed : session.sink.clientHeld = false) (element : ε) :
    session.invoke element = (.error .notOpened, session) := by
  rw [Session.invoke, Sink.held_eq_none_iff.mpr closed]

/-- What an open sink does with an element. -/
theorem invoke_hired {number : Nat} {worker : WorkerHandle}
    (held : session.sink.held = some number) (hired : session.sink.worker = some worker)
    (element : ε) : session.invoke element =
      match session.sink.schema session.clock element with
      | none => (.ok (), session.enter .nothingToSend)
      | some group =>
        if group.logs.isEmpty then (.ok (), session)
        else session.ship number worker (session.sink.request element group) := by
  cases logs : session.sink.schema session.clock element <;>
    simp [Session.invoke, held, hired, logs]

theorem leaves_invoke (cleared : session.calls = []) (paired : session.Paired) (element : ε) :
    Leaves (session.invoke element).2 (session.callsOf (.invoke element))
      (session.holdingAfter (.invoke element)) := by
  cases opened : session.sink.clientHeld with
  | false =>
    rw [invoke_unopened opened]
    simp only [callsOf, holdingAfter, Sink.held_eq_none_iff.mpr opened]
    exact ⟨cleared, rfl, paired⟩
  | true =>
    obtain ⟨number, worker, held, hired⟩ := paired.opened opened
    simp only [invoke_hired held hired, callsOf, request?, opened, held, holdingAfter, if_true]
    cases session.sink.schema session.clock element with
    | none => exact leaves_alone cleared paired rfl rfl rfl
    | some group =>
      simp only
      split
      · exact leaves_alone cleared paired rfl rfl rfl
      · exact leaves_ship cleared paired number worker _

/-! Closing -/

theorem closeClient_unopened (closed : session.sink.clientHeld = false) :
    session.closeClient = session := by
  rw [Session.closeClient, Sink.held_eq_none_iff.mpr closed]

theorem calls_closeClient (session : Session ε) :
    session.closeClient.calls = session.callsOf .close ++ session.calls := by
  cases held : session.sink.held with
  | none => simp [Session.closeClient, held, callsOf]
  | some number =>
    simp only [Session.closeClient, held, callsOf]
    cases (session.client.close number).1 <;> rfl

theorem sink_closeClient (session : Session ε) :
    session.closeClient.sink = { session.sink with held := none } := by
  cases held : session.sink.held with
  | none =>
    simp only [Session.closeClient, held]
    rw [← held]
  | some number =>
    simp only [Session.closeClient, held]
    cases (session.client.close number).1 <;> rfl

theorem handedOut_closeClient (session : Session ε) :
    session.closeClient.client.handedOut = session.client.handedOut := by
  unfold Session.closeClient
  split
  · rfl
  · dsimp only
    split <;> exact Client.handedOut_close _ _

theorem dismiss_same (session : Session ε) : session.dismiss.calls = session.calls ∧
    session.dismiss.client = session.client ∧
      session.dismiss.sink = { session.sink with worker := none } := by
  unfold Session.dismiss
  split
  · rename_i none_held
    rw [← none_held]
    exact ⟨rfl, rfl, rfl⟩
  · exact ⟨rfl, rfl, rfl⟩

theorem sink_close (session : Session ε) : session.close.sink =
    { session.sink with held := none, worker := none } := by
  show session.closeClient.dismiss.sink = _
  rw [(dismiss_same session.closeClient).2.2, sink_closeClient]

theorem leaves_close (cleared : session.calls = []) :
    Leaves session.close (session.callsOf .close) (session.holdingAfter .close) := by
  obtain ⟨sameCalls, sameClient, -⟩ := dismiss_same session.closeClient
  have calls : session.close.calls = session.callsOf .close := by
    have made := calls_closeClient session
    rw [cleared, List.append_nil] at made
    exact sameCalls.trans made
  have reversed : (session.callsOf .close).reverse = session.callsOf .close := by
    simp only [callsOf]
    split <;> rfl
  have next : session.close.client.handedOut = session.client.handedOut := by
    show session.closeClient.dismiss.client.handedOut = _
    rw [sameClient, handedOut_closeClient]
  refine ⟨calls.trans reversed.symm, ?_, ?_⟩
  · rw [holding, sink_close, next]
    rfl
  · unfold Paired
    rw [sink_close]
    rfl

theorem leaves_perform (cleared : session.calls = []) (paired : session.Paired)
    (given : SessionStep ε) : Leaves (session.perform given).2 (session.callsOf given)
      (session.holdingAfter given) := by
  cases given with
  | openAt place => exact leaves_openAt cleared paired place
  | invoke element => exact leaves_invoke cleared paired element
  | close => exact leaves_close cleared
  | snapshot =>
    simp only [Session.perform, Session.snapshot]
    split <;> exact leaves_alone cleared paired rfl rfl rfl
  | _ => exact leaves_alone cleared paired rfl rfl rfl

theorem leaves_step (paired : session.Paired) (given : SessionStep ε) :
    Leaves (session.step given).2 (session.callsOf given) (session.holdingAfter given) :=
  have cleared : session.clear.Paired := paired
  (leaves_perform rfl cleared given).of_same rfl rfl rfl

/-- A step makes the calls that its session has it make. -/
theorem calls_step (paired : session.Paired) (given : SessionStep ε) :
    (session.step given).1.calls = session.callsOf given := by
  have calls := (leaves_step paired given).calls
  show (session.step given).2.calls.reverse = _
  rw [calls, List.reverse_reverse]

/-! Runs -/

/-- The calls of a script. -/
def trace (session : Session ε) (script : List (SessionStep ε)) : List Call :=
  (session.run script).flatMap SessionReport.calls

theorem trace_cons (session : Session ε) (given : SessionStep ε) (rest : List (SessionStep ε)) :
    session.trace (given :: rest) =
      (session.step given).1.calls ++ (session.step given).2.trace rest := rfl

theorem after_append (session : Session ε) (first second : List (SessionStep ε)) :
    session.after (first ++ second) = (session.after first).after second := by
  induction first generalizing session with
  | nil => rfl
  | cons given rest ih => exact ih (session.step given).2

theorem after_concat (session : Session ε) (before : List (SessionStep ε)) (given : SessionStep ε) :
    session.after (before ++ [given]) = ((session.after before).step given).2 := by
  rw [after_append]
  rfl

theorem paired_after (paired : session.Paired) (script : List (SessionStep ε)) :
    (session.after script).Paired := by
  induction script generalizing session with
  | nil => exact paired
  | cons given rest ih => exact ih (leaves_step paired given).paired

end

end Session

/-- The client that is held after a call. One is only made when none is held, the numbers are handed out
in turn, and only the client that is held gets batches and is closed. -/
def Call.hold (holding : Holding) : Call → Option Holding
  | place _ => some holding
  | create _ _ (.failed _) => if holding.held = none then some holding else none
  | create _ _ (.handedOut number) =>
    if holding.held = none ∧ number = holding.next then some ⟨some number, number + 1⟩ else none
  | send number .. => if holding.held = some number then some holding else none
  | close number _ => if holding.held = some number then some ⟨none, holding.next⟩ else none

def Call.isCreate : Call → Bool
  | create .. => true
  | _ => false

def Call.isClose : Call → Bool
  | close .. => true
  | _ => false

/-- The number with which a call hands out a client. -/
def Call.handedOut? : Call → Option Nat
  | create _ _ creation => creation.number?
  | _ => none

/-- The number of the client that a call closes. -/
def Call.closed? : Call → Option Nat
  | close number _ => some number
  | _ => none

/-- Whether a call hands out a client, or closes it. -/
def Call.handover? : Call → Option Bool
  | create _ _ (.handedOut _) => some true
  | close .. => some false
  | _ => none

namespace Session

variable {ε : Type} {session : Session ε}

/-- Batches are only sent for elements. -/
theorem mem_callsOf_send {given : SessionStep ε} {number : Nat} {request : LogRequest}
    {error : Option ClientError} (member : .send number request error ∈ session.callsOf given) :
    ∃ element, given = .invoke element ∧ session.request? element = some request := by
  cases given with
  | invoke element =>
    simp only [callsOf] at member
    split at member
    · rename_i held requested
      cases List.mem_singleton.mp member
      exact ⟨element, rfl, requested⟩
    · cases member
  | openAt place =>
    rcases List.mem_append.mp member with placed | created
    · split at placed <;> simp at placed
    · split at created <;> simp at created
  | close =>
    simp only [callsOf] at member
    split at member <;> simp at member
  | _ => cases member

/-- The requests of a sink are made of what it holds and was given. -/
theorem request?_eq_some_iff {element : ε} {request : LogRequest} :
    session.request? element = some request ↔ session.sink.clientHeld = true ∧
      ∃ group, session.sink.schema session.clock element = some group ∧ group.logs ≠ [] ∧
        session.sink.request element group = request := by
  cases held : session.sink.clientHeld with
  | false => simp [request?, held]
  | true =>
    cases grouped : session.sink.schema session.clock element <;> simp [request?, held, grouped]

theorem hold_openAt (session : Session ε) (place : Place) :
    (session.callsOf (.openAt place)).foldlM Call.hold session.holding =
      some (session.holdingAfter (.openAt place)) := by
  have placed : (if session.sink.isWatched then [Call.place place] else []).foldlM Call.hold
      session.holding = some session.holding := by
    split <;> rfl
  rw [callsOf, List.foldlM_append, placed]
  cases held : session.sink.held with
  | some number =>
    simp only [holdingAfter, Sink.clientHeld_of_held held, if_true]
    rfl
  | none =>
    have closed := Sink.held_eq_none_iff.mp held
    simp only [holdingAfter, closed, Bool.false_eq_true, if_false]
    rcases session.client.create_cases with ⟨error, failed, same⟩ | ⟨made, next⟩
    · simp [failed, same, Call.hold, holding, held, Creation.number?]
    · simp [made, next, Call.hold, holding, held, Creation.number?]

theorem hold_callsOf (session : Session ε) (given : SessionStep ε) :
    (session.callsOf given).foldlM Call.hold session.holding =
      some (session.holdingAfter given) := by
  cases given with
  | openAt place => exact hold_openAt session place
  | invoke element =>
    simp only [callsOf, holdingAfter]
    split
    · rename_i held _
      simp [Call.hold, holding, held]
    · rfl
  | close =>
    simp only [callsOf, holdingAfter]
    cases held : session.sink.held <;> simp [Call.hold, holding, held]
  | _ => rfl

/-- The calls of a script are made when they may be. -/
theorem hold_trace (paired : session.Paired) (script : List (SessionStep ε)) :
    (session.trace script).foldlM Call.hold session.holding =
      some (session.after script).holding := by
  induction script generalizing session with
  | nil => rfl
  | cons given rest ih =>
    have leaves := leaves_step paired given
    rw [trace_cons, List.foldlM_append, calls_step paired, hold_callsOf]
    exact leaves.holding ▸ ih leaves.paired

end Session

/-- What is so after a run, but is not so at first, began with an element of the run and lasted through
all later ones. -/
theorem exists_latest {α : Type} (holds : List α → Prop) {begins : List α → α → Prop}
    {lasts : α → Prop} (never : ¬holds [])
    (step : ∀ before last, holds (before ++ [last]) →
      begins before last ∨ holds before ∧ lasts last)
    {elements : List α} (held : holds elements) :
    ∃ earlier first since, elements = earlier ++ first :: since ∧ begins earlier first ∧
      ∀ other ∈ since, lasts other := by
  induction elements using List.reverseRecOn with
  | nil => exact absurd held never
  | append_singleton before last ih =>
    rcases step before last held with begun | ⟨still, plain⟩
    · exact ⟨before, last, [], rfl, begun, by simp⟩
    · obtain ⟨earlier, first, since, rfl, begun, others⟩ := ih still
      refine ⟨earlier, first, since ++ [last], by simp, begun, ?_⟩
      intro other member
      rcases List.mem_append.mp member with old | new
      · exact others other old
      · rw [List.mem_singleton.mp new]
        exact plain

section

variable {calls : List Call} {holding later : Holding}

/-- After a call that may be made, the others may be made. -/
theorem hold_cons {call : Call} {rest : List Call}
    (made : (call :: rest).foldlM Call.hold holding = some later) :
    ∃ next, call.hold holding = some next ∧ rest.foldlM Call.hold next = some later := by
  rw [List.foldlM_cons] at made
  exact Option.bind_eq_some_iff.mp made

theorem hold_append {first second : List Call}
    (made : (first ++ second).foldlM Call.hold holding = some later) :
    ∃ between, first.foldlM Call.hold holding = some between ∧
      second.foldlM Call.hold between = some later := by
  rw [List.foldlM_append] at made
  exact Option.bind_eq_some_iff.mp made

/-! What a call needs, and what it leaves. -/

theorem hold_failed {settings : ClientSettings} {destination : Destination} {error : ClientError}
    (made : (Call.create settings destination (.failed error)).hold holding = some later) :
    holding.held = none ∧ later = holding := by
  simpa [Call.hold, eq_comm] using made

theorem hold_handedOut {settings : ClientSettings} {destination : Destination} {number : Nat}
    (made : (Call.create settings destination (.handedOut number)).hold holding = some later) :
    holding.held = none ∧ number = holding.next ∧ later = ⟨some number, number + 1⟩ := by
  simpa [Call.hold, and_assoc, eq_comm] using made

theorem hold_send {number : Nat} {request : LogRequest} {error : Option ClientError}
    (made : (Call.send number request error).hold holding = some later) :
    holding.held = some number ∧ later = holding := by
  simpa [Call.hold, eq_comm] using made

theorem hold_close {number : Nat} {error : Option ClientError}
    (made : (Call.close number error).hold holding = some later) :
    holding.held = some number ∧ later = ⟨none, holding.next⟩ := by
  simpa [Call.hold, eq_comm] using made

/-- A call that may be made is no handover, or hands out the next client, or closes the one that is
held. -/
theorem hold_cases {call : Call} (made : call.hold holding = some later) :
    (later = holding ∧ call.handover? = none ∧ call.handedOut? = none ∧ call.closed? = none) ∨
      (∃ settings destination, call = .create settings destination (.handedOut holding.next) ∧
        holding.held = none ∧ later = ⟨some holding.next, holding.next + 1⟩) ∨
      ∃ number error, call = .close number error ∧ holding.held = some number ∧
        later = ⟨none, holding.next⟩ := by
  match call with
  | .place place =>
    cases made
    exact .inl ⟨rfl, rfl, rfl, rfl⟩
  | .create _ _ (.failed error) => exact .inl ⟨(hold_failed made).2, rfl, rfl, rfl⟩
  | .create settings destination (.handedOut number) =>
    obtain ⟨unheld, rfl, same⟩ := hold_handedOut made
    exact .inr (.inl ⟨settings, destination, rfl, unheld, same⟩)
  | .send number request error => exact .inl ⟨(hold_send made).2, rfl, rfl, rfl⟩
  | .close number error =>
    obtain ⟨held, same⟩ := hold_close made
    exact .inr (.inr ⟨number, error, rfl, held, same⟩)

/-- The clients that are handed out are closed in turn, except for the one that is held still. -/
theorem closed_of_hold (made : calls.foldlM Call.hold holding = some later) :
    holding.held.toList ++ calls.filterMap Call.handedOut? =
      calls.filterMap Call.closed? ++ later.held.toList := by
  induction calls generalizing holding with
  | nil =>
    cases made
    simp
  | cons call rest ih =>
    obtain ⟨next, first, others⟩ := hold_cons made
    have turns := ih others
    obtain ⟨rfl, -, unmade, unclosed⟩ | ⟨_, _, rfl, unheld, rfl⟩ | ⟨number, _, rfl, held, rfl⟩ :=
      hold_cases first
    · rwa [List.filterMap_cons_none unmade, List.filterMap_cons_none unclosed]
    · rw [unheld]
      exact turns
    · rw [held]
      exact congrArg (List.cons number) turns

/-- The numbers are handed out in turn. -/
theorem numbers_of_hold (made : calls.foldlM Call.hold holding = some later) :
    ∃ count, calls.filterMap Call.handedOut? = List.range' holding.next count := by
  induction calls generalizing holding with
  | nil => exact ⟨0, rfl⟩
  | cons call rest ih =>
    obtain ⟨next, first, others⟩ := hold_cons made
    obtain ⟨count, numbers⟩ := ih others
    obtain ⟨rfl, -, unmade, -⟩ | ⟨_, _, rfl, -, rfl⟩ | ⟨_, _, rfl, -, rfl⟩ := hold_cases first
    · exact ⟨count, by rwa [List.filterMap_cons_none unmade]⟩
    · exact ⟨count + 1, congrArg (List.cons holding.next) numbers⟩
    · exact ⟨count, numbers⟩

/-- A client that is held was handed out by the latest call for one, and was not closed since. -/
theorem handedOut_of_hold {number : Nat} (unheld : holding.held = none)
    (made : calls.foldlM Call.hold holding = some later) (held : later.held = some number) :
    ∃ earlier settings destination since,
      calls = earlier ++ .create settings destination (.handedOut number) :: since ∧
        ∀ call ∈ since, call.isCreate = false ∧ call.isClose = false := by
  let holds (before : List Call) : Prop :=
    ∃ reached, before.foldlM Call.hold holding = some reached ∧ reached.held = some number
  have never : ¬holds [] := by
    rintro ⟨reached, same, known⟩
    cases same
    cases unheld.symm.trans known
  have last_held (before : List Call) (call : Call) (stands : holds (before ++ [call])) :
      (∃ settings destination, call = .create settings destination (.handedOut number)) ∨
        holds before ∧ call.isCreate = false ∧ call.isClose = false := by
    obtain ⟨reached, made, known⟩ := stands
    obtain ⟨between, earlier, last⟩ := hold_append made
    obtain ⟨_, first, same⟩ := hold_cons last
    cases same
    match call with
    | .place place =>
      cases first
      exact .inr ⟨⟨_, earlier, known⟩, rfl, rfl⟩
    | .create settings destination (.failed error) =>
      obtain ⟨unheld, rfl⟩ := hold_failed first
      cases unheld.symm.trans known
    | .create settings destination (.handedOut other) =>
      obtain ⟨-, -, rfl⟩ := hold_handedOut first
      cases known
      exact .inl ⟨settings, destination, rfl⟩
    | .send other request error =>
      obtain ⟨-, rfl⟩ := hold_send first
      exact .inr ⟨⟨_, earlier, known⟩, rfl, rfl⟩
    | .close other error =>
      obtain ⟨-, rfl⟩ := hold_close first
      cases known
  obtain ⟨earlier, _, since, rfl, ⟨settings, destination, rfl⟩, quiet⟩ :=
    exists_latest holds never last_held ⟨later, made, held⟩
  exact ⟨earlier, settings, destination, since, rfl, quiet⟩

end

end CheckpointSink
