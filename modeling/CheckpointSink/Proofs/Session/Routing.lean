import CheckpointSink.Proofs.Session.Calls
import CheckpointSink.Proofs.Session.Count

/-!
The partitioner that chooses the shard hash keys of a sink. It is the one that was installed last,
and it was told the places of all openings since, whether they succeeded or not.
-/

namespace CheckpointSink

open CheckpointSink.Settlement

variable {ε : Type}

namespace SessionStep

/-- The partitioner that a step installs. -/
def installs? : SessionStep ε → Option (Partitioner ε)
  | setPartitioner partitioner => some partitioner
  | _ => none

def isOpening : SessionStep ε → Bool
  | openAt _ => true
  | _ => false

end SessionStep

/-- The partitioner that was installed last. -/
def lastInstalled (steps : List (SessionStep ε)) : Option (Partitioner ε) :=
  (steps.filterMap SessionStep.installs?).getLast?

/-- The places that are told after a step, given those that were told before it. -/
def SessionStep.tells (places : List Place) : SessionStep ε → List Place
  | openAt place => places ++ [place]
  | setPartitioner _ => []
  | _ => places

/-- The places that the partitioner which was installed last was told since. -/
def placesTold (steps : List (SessionStep ε)) : List Place :=
  steps.foldl SessionStep.tells []

/-- The key of an element, given the steps before the latest opening and those after it. -/
def keySince (earlier : List (SessionStep ε)) (place : Place) (since : List (SessionStep ε))
    (element : ε) : Option String :=
  match lastInstalled since with
  | none => (lastInstalled earlier).bind fun partitioner =>
    partitioner.key (placesTold earlier ++ [place]) element
  | some partitioner => partitioner.key [] element

/-- The partitioner after a step. An opening gives it a place. -/
def SessionStep.routes (partitioner : Option (PlacedPartitioner ε)) :
    SessionStep ε → Option (PlacedPartitioner ε)
  | openAt place => partitioner.map (·.put place)
  | setPartitioner installed => some (.unplaced installed)
  | _ => partitioner

namespace Session

variable {session : Session ε}

/-- Of what a session was given, a step changes at most the partitioner. -/
structure Reroutes (session later : Session ε) (partitioner : Option (PlacedPartitioner ε)) :
    Prop where
  clock : later.clock = session.clock
  settings : later.sink.settings = session.sink.settings
  schema : later.sink.schema = session.sink.schema
  partitioner : later.sink.partitioner = partitioner

theorem clock_place (session : Session ε) (place : Place) :
    (session.place place).clock = session.clock := by
  unfold Session.place
  split <;> rfl

theorem clock_acquire (session : Session ε) : session.acquire.2.clock = session.clock := by
  unfold Session.acquire
  split
  · rfl
  · dsimp only
    split <;> rfl

theorem reroutes_openAt (session : Session ε) (place : Place) :
    Reroutes session (session.openAt place).2 (session.sink.partitioner.map (·.put place)) := by
  obtain ⟨-, -, acquired, -⟩ := acquire_eq (session.place place)
  rw [sink_place] at acquired
  have clock := (clock_acquire (session.place place)).trans (clock_place session place)
  have placed : Reroutes session (session.place place).acquire.2
      (session.sink.partitioner.map (·.put place)) := by
    refine ⟨clock, ?_, ?_, ?_⟩ <;> rw [acquired] <;> rfl
  simp only [Session.openAt]
  split
  · exact placed
  · unfold Session.employ
    split <;> exact ⟨placed.clock, placed.settings, placed.schema, placed.partitioner⟩

theorem reroutes_invoke (session : Session ε) (element : ε) :
    Reroutes session (session.invoke element).2 session.sink.partitioner := by
  unfold Session.invoke Session.ship
  split
  · split
    · exact ⟨rfl, rfl, rfl, rfl⟩
    · simp only
      split
      · exact ⟨rfl, rfl, rfl, rfl⟩
      · split <;> exact ⟨rfl, rfl, rfl, rfl⟩
  · exact ⟨rfl, rfl, rfl, rfl⟩

theorem clock_close (session : Session ε) : session.close.clock = session.clock := by
  show session.closeClient.dismiss.clock = _
  have closed : session.closeClient.clock = session.clock := by
    unfold Session.closeClient
    split
    · rfl
    · dsimp only
      split <;> rfl
  unfold Session.dismiss
  split <;> exact closed

theorem reroutes_perform (session : Session ε) (given : SessionStep ε) :
    Reroutes session (session.perform given).2 (given.routes session.sink.partitioner) := by
  cases given with
  | openAt place => exact reroutes_openAt session place
  | invoke element => exact reroutes_invoke session element
  | snapshot =>
    simp only [Session.perform, Session.snapshot]
    split <;> exact ⟨rfl, rfl, rfl, rfl⟩
  | close =>
    show Reroutes session session.close session.sink.partitioner
    refine ⟨clock_close session, ?_, ?_, ?_⟩ <;> rw [sink_close]
  | _ => exact ⟨rfl, rfl, rfl, rfl⟩

theorem reroutes_step (session : Session ε) (given : SessionStep ε) :
    Reroutes session (session.step given).2 (given.routes session.sink.partitioner) :=
  have rerouted := reroutes_perform session.clear given
  ⟨rerouted.clock, rerouted.settings, rerouted.schema, rerouted.partitioner⟩

theorem partitioner_step (session : Session ε) (given : SessionStep ε) :
    (session.step given).2.sink.partitioner = given.routes session.sink.partitioner :=
  (reroutes_step session given).partitioner

theorem lastInstalled_concat (before : List (SessionStep ε)) (given : SessionStep ε) :
    lastInstalled (before ++ [given]) = given.installs?.or (lastInstalled before) := by
  cases installed : given.installs? <;> simp [lastInstalled, installed]

theorem placesTold_concat (before : List (SessionStep ε)) (given : SessionStep ε) :
    placesTold (before ++ [given]) = given.tells (placesTold before) :=
  List.foldl_concat ..

/-- The partitioner of a sink is the one that was installed last. -/
theorem installed_after (unrouted : session.sink.partitioner = none) (script : List (SessionStep ε)) :
    (session.after script).sink.partitioner =
      (lastInstalled script).map fun partitioner => ⟨partitioner, placesTold script⟩ := by
  induction script using List.reverseRecOn with
  | nil => exact unrouted
  | append_singleton before given ih =>
    rw [after_concat, partitioner_step, lastInstalled_concat, placesTold_concat, ih]
    cases given with
    | openAt place =>
      simp only [SessionStep.routes, Option.map_map]
      rfl
    | _ => rfl

/-- Without another opening, a partitioner is told nothing more until another is installed. -/
theorem partitioner_after {since : List (SessionStep ε)}
    (unopened : ∀ given ∈ since, given.isOpening = false) :
    (session.after since).sink.partitioner =
      match lastInstalled since with
      | none => session.sink.partitioner
      | some partitioner => some (.unplaced partitioner) := by
  induction since using List.reverseRecOn with
  | nil => rfl
  | append_singleton before given ih =>
    have kept := ih fun other member => unopened other (List.mem_append_left _ member)
    rw [after_concat, partitioner_step, lastInstalled_concat]
    cases given with
    | openAt place => exact absurd (unopened _ (List.mem_append_right _ List.mem_cons_self)) (by
        simp [SessionStep.isOpening])
    | setPartitioner partitioner => rfl
    | _ => exact kept

theorem done_of_holds {place : Place}
    (holds : (session.holdingAfter (.openAt place)).held.isSome = true) :
    (session.step (.openAt place)).1.answer = .done := by
  obtain ⟨answer, -, -, -⟩ := acquire_eq (session.clear.place place)
  rw [client_place, sink_place] at answer
  change _ = if session.sink.clientHeld then none else session.client.create.1.error? at answer
  have acquired : (session.clear.place place).acquire.1 = none := by
    rw [answer]
    split
    · rfl
    · rename_i closed
      rw [holdingAfter, if_neg closed] at holds
      cases created : session.client.create.1 with
      | handedOut number => rfl
      | failed error => simp [created, Creation.number?] at holds
  show SessionAnswer.ofResult (session.clear.openAt place).1 = _
  rw [Session.openAt, acquired]
  rfl

/-- A sink that holds a client got or kept it at its latest opening. -/
theorem latest_opening (paired : session.Paired) (closed : session.sink.clientHeld = false)
    {before : List (SessionStep ε)} (held : (session.after before).sink.clientHeld = true) :
    ∃ earlier place since, before = earlier ++ .openAt place :: since ∧
      (∀ given ∈ since, given.isOpening = false) ∧
        ((session.after earlier).step (.openAt place)).1.answer = .done := by
  have last_held (before : List (SessionStep ε)) (given : SessionStep ε)
      (held : (session.after (before ++ [given])).sink.clientHeld = true) :
      (∃ place, given = .openAt place ∧
        ((session.after before).step (.openAt place)).1.answer = .done) ∨
          (session.after before).sink.clientHeld = true ∧ given.isOpening = false := by
    rw [after_concat, (leaves_step (paired_after paired before) given).clientHeld] at held
    cases given with
    | openAt place => exact .inl ⟨place, rfl, done_of_holds held⟩
    | close => cases held
    | _ => exact .inr ⟨held, rfl⟩
  have never : ¬(session.after []).sink.clientHeld = true := by
    rw [show session.after [] = session from rfl, closed]
    exact Bool.false_ne_true
  obtain ⟨earlier, _, since, rfl, ⟨place, rfl, done⟩, unopened⟩ :=
    exists_latest (fun before => (session.after before).sink.clientHeld = true) never last_held held
  exact ⟨earlier, place, since, rfl, unopened, done⟩

/-- A request has the key of the partitioner that was installed before the latest opening, which
succeeded, once that was told the place of that opening. If others were installed since, it has the key
of the latest of them, which was told no place yet. -/
theorem keys_since_opening {clock : UInt32} {client : Client} {settings : Settings}
    {schema : UInt32 → ε → Option LogGroup} {before : List (SessionStep ε)}
    {given : SessionStep ε} {number : Nat} {request : LogRequest} {error : Option ClientError}
    (sent : .send number request error ∈
      (((Session.new clock client (Sink.new settings schema)).after before).step given).1.calls) :
    ∃ element earlier place since, given = .invoke element ∧
      before = earlier ++ .openAt place :: since ∧
      (∀ other ∈ since, other.isOpening = false) ∧
      (((Session.new clock client (Sink.new settings schema)).after earlier).step
        (.openAt place)).1.answer = .done ∧
      request.shardHashKey = keySince earlier place since element := by
  have paired : (Session.new clock client (Sink.new settings schema)).Paired := rfl
  rw [calls_step (paired_after paired before)] at sent
  obtain ⟨element, rfl, requested⟩ := mem_callsOf_send sent
  obtain ⟨held, group, -, -, rfl⟩ := request?_eq_some_iff.mp requested
  obtain ⟨earlier, place, since, rfl, unopened, done⟩ := latest_opening paired rfl held
  refine ⟨element, earlier, place, since, rfl, rfl, unopened, done, ?_⟩
  have unrouted : (Session.new clock client (Sink.new settings schema)).sink.partitioner = none := rfl
  have installed := installed_after unrouted earlier
  show Sink.shardKey _ element = _
  rw [Sink.shardKey, keySince, after_append, Session.after, partitioner_after unopened,
    partitioner_step, installed]
  cases lastInstalled since with
  | some partitioner => rfl
  | none => cases lastInstalled earlier <;> rfl

/-- A partitioner is installed on a sink that was opened with one. -/
def overwrittenScript : List (SessionStep LogGroup) :=
  [.setPartitioner .bySlice, .openAt ⟨1, 2⟩, .setPartitioner .bySlice]

def overwrittenSession : Session LogGroup :=
  (Session.new 0 (.fresh .scripted false) (Sink.new plainSettings fun _ => some)).after
    overwrittenScript

def overwrittenRequest : LogRequest :=
  ⟨"project", "store", "topic", "source", none, [⟨0, []⟩]⟩

theorem keys_since_opening_overwritten :
    Call.send 0 overwrittenRequest none ∈ (overwrittenSession.step (.invoke plainGroup)).1.calls ∧
      ∃ earlier place since, overwrittenScript = earlier ++ .openAt place :: since ∧
        overwrittenRequest.shardHashKey = keySince earlier place since plainGroup := by
  have sent : Call.send 0 overwrittenRequest none ∈
      (overwrittenSession.step (.invoke plainGroup)).1.calls := by decide +kernel
  obtain ⟨element, earlier, place, since, given, before, -, -, key⟩ := keys_since_opening sent
  cases given
  exact ⟨sent, earlier, place, since, before, key⟩

/-- The partitioner that the sink was opened with gives another key: it does not last until the next
opening. -/
theorem overwritten_before_opening :
    (overwrittenSession.step (.invoke plainGroup)).1.calls = [.send 0 overwrittenRequest none] ∧
      overwrittenRequest.shardHashKey = none ∧
      (lastInstalled (overwrittenScript.take 1)).bind
        (fun partitioner => partitioner.key [⟨1, 2⟩] plainGroup) =
          some "7fffffffffffffffffffffffffffffff" := by
  decide +kernel

end Session
end CheckpointSink
