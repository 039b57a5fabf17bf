import CheckpointSink.Proofs.Session.Calls
import CheckpointSink.Proofs.Session.Timing
import CheckpointSink.Proofs.Settlement.Acts

/-!
The sessions in which whoever drives a sink can find it, also between two tasks. The client may take
part in its own close: it may use resolvers, let other tasks run and sleep before it returns. Whatever
was done, the sink holds no worker, or one whose end was not awaited and to which alone batches can go.
-/

namespace CheckpointSink

open CheckpointSink.Settlement

/-- A step that neither lets a task run nor time pass, unless it begins a wait in the background. -/
def SessionStep.isPrompt {ε : Type} (client : Client) : SessionStep ε → Bool
  | .invoke _ => client.delayMs = 0
  | .snapshot => false
  | .close => false
  | .wait => false
  | .join _ => false
  | .resolve _ => false
  | .resolveAfter .. => false
  | .sleep _ => false
  | _ => true

namespace Session

variable {ε : Type} {session : Session ε}

/-- The client is given back after it did something for its close, with the error of the close and what
is left of it. -/
def giveBack (session : Session ε) (closed : Option ClientError × Client) (doings : List Act) :
    Session ε :=
  let returned :=
    { session with
      timeline := session.timeline.acts doings
      client := closed.2
      sink := { session.sink with held := none }
      calls := (session.sink.held.toList.map fun number => .close number closed.1) ++ session.calls }
  match closed.1 with
  | some error => returned.enter (.clientCloseFailed error)
  | none => returned

/-- The close of a sink whose client does something for its own close. -/
def closeBy (session : Session ε) (closed : Option ClientError × Client) (doings : List Act) :
    Session ε :=
  let dismissed := (session.giveBack closed doings).dismiss
  dismissed.enter (.sinkClosed dismissed.pending)

/-- What the client of a session does for its close is to use resolvers. -/
theorem closeClient_eq {number : Nat} (held : session.sink.held = some number) :
    session.closeClient = session.giveBack (session.client.close number)
      ((session.client.closing.outcomes session.timeline.resolvers).map fun given =>
        .uses given.1 given.2) := by
  rw [giveBack, Timeline.acts_uses, closeClient, held]
  rfl

theorem close_eq {number : Nat} (held : session.sink.held = some number) :
    session.close = session.closeBy (session.client.close number)
      ((session.client.closing.outcomes session.timeline.resolvers).map fun given =>
        .uses given.1 given.2) := by
  rw [close, closeBy, closeClient_eq held]

/-- A closed sink holds neither a client nor a worker. -/
theorem sink_closeBy (session : Session ε) (closed : Option ClientError × Client) (doings : List Act) :
    (session.closeBy closed doings).sink =
      { session.sink with held := none, worker := none } := by
  show (session.giveBack closed doings).dismiss.sink = _
  rw [(dismiss_same _).2.2, giveBack]
  dsimp only
  split <;> rfl

theorem paired_closeBy (session : Session ε) (closed : Option ClientError × Client)
    (doings : List Act) : (session.closeBy closed doings).Paired := by
  rw [Paired, sink_closeBy]
  rfl

/-- The sessions that can come from one that was just begun. -/
inductive Reached (begun : Session ε) : Session ε → Prop where
  | start : Reached begun begun
  | step {session : Session ε} (reached : Reached begun session)
      (idle : session.timeline.ready = []) (given : SessionStep ε) :
      Reached begun (session.step given).2
  /-- Some steps can also be taken while tasks wait to run. -/
  | prompt {session : Session ε} (reached : Reached begun session) (given : SessionStep ε)
      (prompt : given.isPrompt session.client = true) :
      Reached begun (session.clear.perform given).2
  | acts {session : Session ε} (reached : Reached begun session) (doings : List Act) :
      Reached begun { session with timeline := session.timeline.acts doings }
  /-- A wait in the foreground enters its reports. -/
  | reports {session : Session ε} (reached : Reached begun session) (event : Event) :
      Reached begun (session.enter event)
  | closeBy {session : Session ε} (reached : Reached begun session) (opened : session.isOpen = true)
      (closed : Option ClientError × Client) (doings : List Act) :
      Reached begun (session.closeBy closed doings)

theorem Reached.after {begun : Session ε} (reached : Reached begun session)
    (idle : session.timeline.ready = []) (script : List (SessionStep ε)) :
    Reached begun (session.after script) := by
  induction script generalizing session with
  | nil => exact reached
  | cons given rest ih => exact ih (reached.step idle given) (Timeline.ready_runReady _)

/-- A worker whose end was not awaited, and to which alone batches can go. -/
structure Manned (senders : List Bool) (handle : WorkerHandle) : Prop where
  awaitable : handle.awaitable = true
  hired : handle.worker < senders.length
  alone : true ∉ senders.set handle.worker false

/-- A sink that is ready to be closed. -/
structure Attended (session : Session ε) : Prop where
  poised : session.timeline.Poised
  grace : 0 < session.sink.settings.shutdownGraceMs
  manned : ∀ handle, session.sink.worker = some handle →
    Manned session.timeline.ledger.senders handle
  unmanned : session.sink.worker = none → true ∉ session.timeline.ledger.senders

theorem attended_new (clock : UInt32) (client : Client) {settings : Settings}
    (schema : UInt32 → ε → Option LogGroup) (grace : 0 < settings.shutdownGraceMs) :
    Attended (Session.new clock client (Sink.new settings schema)) where
  poised := ⟨Timeline.settled_empty.orderly, fun _ member => absurd member List.not_mem_nil⟩
  grace := grace
  manned _ found := by cases found
  unmanned _ := List.not_mem_nil

namespace Attended

/-- Nothing is done to the workers. -/
theorem moveOn (attended : Attended session) {later : Session ε} (poised : later.timeline.Poised)
    (senders : later.timeline.ledger.senders = session.timeline.ledger.senders)
    (worker : later.sink.worker = session.sink.worker)
    (settings : later.sink.settings = session.sink.settings) : Attended later where
  poised := poised
  grace := settings ▸ attended.grace
  manned := by
    rw [senders, worker]
    exact attended.manned
  unmanned := by
    rw [senders, worker]
    exact attended.unmanned

theorem alike {later : Session ε} (attended : Attended session) (alike : Alike session later) :
    Attended later :=
  attended.moveOn (alike.timeline ▸ attended.poised) (by rw [alike.timeline]) alike.worker
    alike.settings

theorem enter (attended : Attended session) (event : Event) : Attended (session.enter event) :=
  attended.moveOn (attended.poised.enter event) rfl rfl rfl

theorem clear (attended : Attended session) : Attended session.clear :=
  attended.moveOn attended.poised.clear rfl rfl rfl

/-- What tasks keep, and the passing of time, has nothing to do with the workers. -/
theorem lasts (attended : Attended session) {timeline : Timeline} (poised : timeline.Poised)
    (lasts : ∀ {kept}, Ledger.Lasts kept → kept session.timeline.ledger → kept timeline.ledger) :
    Attended { session with timeline } :=
  attended.moveOn poised (lasts (Ledger.lasts_senders _) rfl) rfl rfl

theorem acts (attended : Attended session) (doings : List Act) :
    Attended { session with timeline := session.timeline.acts doings } := by
  obtain ⟨_, _, dealt⟩ := attended.poised.acts doings
  exact attended.lasts dealt.poised fun lasts holds => Timeline.lasts_acts lasts holds doings

theorem settleReady (attended : Attended session) : Attended session.settleReady :=
  attended.lasts attended.poised.tended.calm.poised fun lasts holds => lasts.runReady holds

/-! Steps -/

theorem employ (attended : Attended session) : Attended session.employ := by
  unfold Session.employ
  split
  · exact attended
  · rename_i none
    have senders : (WorkerHandle.start session.timeline).2.ledger.senders =
        session.timeline.ledger.senders ++ [true] := by
      rw [WorkerHandle.start, Timeline.wake_eq]
      exact Ledger.senders_start _
    have last : (WorkerHandle.start session.timeline).1.worker =
        session.timeline.ledger.senders.length := (List.length_map _).symm
    refine ⟨attended.poised.start, attended.grace, ?_, fun absent => by cases absent⟩
    rintro handle found
    rw [← Option.some.inj found]
    refine ⟨rfl, ?_, ?_⟩
    · rw [senders, last, List.length_append]
      exact Nat.lt_succ_self _
    · rw [senders, last, List.set_append_right _ _ (Nat.le_refl _), Nat.sub_self]
      simpa using attended.unmanned none

theorem openAt (attended : Attended session) (place : Place) : Attended (session.openAt place).2 := by
  have acquired := attended.alike
    ((alike_place session place).trans (alike_acquire (session.place place)))
  rw [Session.openAt]
  split
  · exact acquired
  · exact acquired.employ.enter _

theorem hired (attended : Attended session) {handle : WorkerHandle}
    (found : session.sink.worker = some handle) :
    handle.worker < session.timeline.ledger.workers.length := by
  have known := (attended.manned handle found).hired
  rwa [Ledger.senders, List.length_map] at known

theorem accept (attended : Attended session) {worker : WorkerHandle}
    (found : session.sink.worker = some worker) (delivered : Option Outcome) :
    Attended (session.accept worker delivered) := by
  have known : session.timeline.ledger.worker? worker.worker = some _ :=
    List.getElem?_eq_getElem (attended.hired found)
  have submitted : (session.timeline.submit delivered worker.worker).ledger.senders =
      session.timeline.ledger.senders := by
    rw [Timeline.submit, Timeline.wake_eq]
    exact Ledger.senders_submit attended.poised.tended.booked.fresh known delivered
  refine attended.moveOn (attended.poised.submit known delivered) ?_ rfl rfl
  cases delivered <;> exact submitted

theorem ship (attended : Attended session) (number : Nat) {worker : WorkerHandle}
    (found : session.sink.worker = some worker)
    (either : session.timeline.ready = [] ∨ session.client.delayMs = 0) (request : LogRequest) :
    Attended (session.ship number worker request).2 := by
  have considered : Attended { session with timeline := session.considered } := by
    unfold Session.considered
    split
    · exact attended
    · rename_i slow
      have calm : session.timeline.Calm := ⟨attended.poised.tended, either.resolve_right slow⟩
      exact attended.lasts (calm.pass _).poised fun lasts holds => lasts.pass holds _
  have answered (error : Option ClientError) :
      Attended (session.answered number request error) :=
    considered.moveOn considered.poised rfl rfl rfl
  simp only [Session.ship]
  split
  · exact (answered (some _)).enter _
  · exact (answered none).accept found _

theorem invoke (attended : Attended session)
    (either : session.timeline.ready = [] ∨ session.client.delayMs = 0) (element : ε) :
    Attended (session.invoke element).2 := by
  unfold Session.invoke
  split
  · rename_i number worker _ found
    split
    · exact attended.enter _
    · split
      · exact attended
      · exact attended.ship number found either _
  · exact attended

theorem giveBack (attended : Attended session) (closed : Option ClientError × Client)
    (doings : List Act) : Attended (session.giveBack closed doings) := by
  have acted := attended.acts doings
  unfold Session.giveBack
  dsimp only
  split
  · exact acted.moveOn (acted.poised.enter _) rfl rfl rfl
  · exact acted.moveOn acted.poised rfl rfl rfl

theorem timeline_dismiss (attended : Attended session) {handle : WorkerHandle}
    (found : session.sink.worker = some handle) :
    session.dismiss.timeline = (handle.release session.timeline).runReady := by
  simp only [Session.dismiss, found]
  exact attended.poised.tended.shutdown (attended.manned handle found).awaitable
    (attended.hired found) attended.grace

theorem ended_dismiss (attended : Attended session) {handle : WorkerHandle}
    (found : session.sink.worker = some handle) :
    session.dismiss.timeline.ledger.hasEnded handle.worker = true := by
  rw [attended.timeline_dismiss found]
  have tended := attended.poised.tended
  exact (tended.release handle).ended (tended.leaving_release (attended.hired found))

/-- No channel is kept open any more. -/
theorem parted (attended : Attended session) {handle : WorkerHandle}
    (found : session.sink.worker = some handle) :
    (handle.release session.timeline).Parted := by
  refine ⟨attended.poised.release handle, ?_⟩
  rw [WorkerHandle.release, Timeline.wake_eq]
  show true ∉ (session.timeline.ledger.attempts [.release handle.worker]).senders
  rw [Ledger.senders_release]
  exact (attended.manned handle found).alone

theorem dismiss (attended : Attended session) : Attended session.dismiss := by
  cases found : session.sink.worker with
  | none =>
    have same : session.dismiss = session := by simp only [Session.dismiss, found]
    rw [same]
    exact attended
  | some handle =>
    have parted := attended.parted found
    have unheld : true ∉ (handle.release session.timeline).runReady.ledger.senders := by
      have kept : (handle.release session.timeline).runReady.ledger.senders =
          (handle.release session.timeline).ledger.senders :=
        (Ledger.lasts_senders _).runReady rfl
      exact kept ▸ parted.unheld
    refine ⟨?_, ?_, ?_, ?_⟩
    · rw [attended.timeline_dismiss found]
      exact parted.tended.calm.poised
    · rw [(dismiss_same session).2.2]
      exact attended.grace
    · rw [(dismiss_same session).2.2]
      rintro other ⟨⟩
    · intro _
      rw [attended.timeline_dismiss found]
      exact unheld

theorem closeBy (attended : Attended session) (closed : Option ClientError × Client)
    (doings : List Act) : Attended (session.closeBy closed doings) :=
  (attended.giveBack closed doings).dismiss.enter _

theorem close (attended : Attended session) : Attended session.close := by
  cases held : session.sink.held with
  | some number =>
    rw [close_eq held]
    exact attended.closeBy _ _
  | none =>
    rw [Session.close, closeClient_unopened (Sink.held_eq_none_iff.mp held)]
    exact attended.dismiss.enter _

/-- Every step that lets tasks run or time pass is taken once no task can run. -/
theorem perform (attended : Attended session) (given : SessionStep ε)
    (either : session.timeline.ready = [] ∨ given.isPrompt session.client = true) :
    Attended (session.perform given).2 := by
  have calm (slow : given.isPrompt session.client = false) : session.timeline.Calm :=
    ⟨attended.poised.tended, either.resolve_right (by simp [slow])⟩
  cases given with
  | openAt place => exact attended.openAt place
  | invoke element =>
    have instant := either.imp_right fun prompt => of_decide_eq_true prompt
    exact attended.invoke instant element
  | snapshot =>
    simp only [Session.perform, Session.snapshot]
    split
    · exact attended.lasts ((calm rfl).wait _).poised fun lasts holds => lasts.wait holds _
    · exact attended
  | close => exact attended.close
  | wait => exact attended.lasts ((calm rfl).wait _).poised fun lasts holds => lasts.wait holds _
  | spawnWait =>
    exact attended.lasts (attended.poised.tended.spawnWait _).poised
      fun lasts holds => lasts.spawnWait holds _
  | join index =>
    simp only [Session.perform, Session.onTimeline, joinWait]
    split
    · exact attended
    · exact attended.lasts ((calm rfl).join index).poised fun lasts holds => lasts.join holds index
  | resolve outcomes =>
    exact attended.lasts ((calm rfl).resolveAll outcomes).poised
      fun lasts holds => lasts.resolveAll holds outcomes
  | resolveAfter batch delayMs outcome =>
    exact attended.lasts ((calm rfl).resolveAfter batch delayMs outcome).poised
      fun lasts holds => lasts.resolveAfter holds batch delayMs outcome
  | sleep delayMs =>
    exact attended.lasts ((calm rfl).pass _).poised fun lasts holds => lasts.pass holds _
  | _ => exact attended.moveOn attended.poised rfl rfl rfl

end Attended

/-- However a session was reached, its sink is ready to be closed. -/
theorem Reached.attended {begun : Session ε} (attended : Attended begun) (paired : begun.Paired)
    (reached : Reached begun session) : Attended session ∧ session.Paired := by
  induction reached with
  | start => exact ⟨attended, paired⟩
  | step _ idle given ih =>
    have performed := ih.1.clear.perform given (.inl idle)
    exact ⟨performed.settleReady, (leaves_step ih.2 given).paired⟩
  | @prompt session _ given prompt ih =>
    have cleared : session.clear.Paired := ih.2
    exact ⟨ih.1.clear.perform given (.inr prompt), (leaves_perform rfl cleared given).paired⟩
  | acts _ doings ih => exact ⟨ih.1.acts doings, ih.2⟩
  | reports _ event ih => exact ⟨ih.1.enter event, ih.2⟩
  | closeBy _ _ closed doings ih => exact ⟨ih.1.closeBy closed doings, paired_closeBy _ closed doings⟩

end Session
end CheckpointSink
