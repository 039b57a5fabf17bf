import CheckpointSink.Proofs.Polling
import CheckpointSink.Proofs.Session.Calls

/-!
The life of a sink, whatever its client and its scripts are: it holds a client with a worker or
neither of them, and it uses up one client before it asks for another.
-/

namespace CheckpointSink

open CheckpointSink.Settlement

/-- Truth values in turn. -/
def alternating (next : Bool) : Nat → List Bool
  | 0 => []
  | length + 1 => next :: alternating (!next) length

section

variable {calls : List Call} {holding later : Holding}

/-- Clients are handed out and closed in turn. -/
theorem handovers_of_hold (made : calls.foldlM Call.hold holding = some later) :
    calls.filterMap Call.handover? =
      alternating (!holding.held.isSome) (calls.filterMap Call.handover?).length := by
  induction calls generalizing holding with
  | nil => rfl
  | cons call rest ih =>
    obtain ⟨next, first, others⟩ := hold_cons made
    have turns := ih others
    obtain ⟨rfl, unmade, -, -⟩ | ⟨_, _, rfl, unheld, rfl⟩ | ⟨number, _, rfl, held, rfl⟩ :=
      hold_cases first
    · rwa [List.filterMap_cons_none unmade]
    · rw [unheld]
      exact congrArg (List.cons true) turns
    · rw [held]
      exact congrArg (List.cons false) turns

/-- A client is held if and only if the last handover has handed it out. -/
theorem isSome_of_hold (made : calls.foldlM Call.hold holding = some later) :
    later.held.isSome =
      (calls.filterMap Call.handover?).getLast?.getD holding.held.isSome := by
  induction calls generalizing holding with
  | nil =>
    cases made
    rfl
  | cons call rest ih =>
    obtain ⟨next, first, others⟩ := hold_cons made
    have last := ih others
    obtain ⟨rfl, unmade, -, -⟩ | ⟨_, _, rfl, -, rfl⟩ | ⟨_, _, rfl, -, rfl⟩ := hold_cases first
    · rwa [List.filterMap_cons_none unmade]
    · simp [last, Call.handover?, List.getLast?_cons]
    · simp [last, Call.handover?, List.getLast?_cons]

/-- Before another client is asked for, the one that was handed out is closed exactly once, and no
other is. -/
theorem closings_between {earlier between others : List Call} {settings next : ClientSettings}
    {destination nextDestination : Destination} {number : Nat} {creation : Creation}
    (made : (earlier ++ .create settings destination (.handedOut number) ::
      (between ++ .create next nextDestination creation :: others)).foldlM Call.hold holding =
        some later)
    (uncreated : ∀ call ∈ between, call.isCreate = false) :
    between.filterMap Call.closed? = [number] := by
  obtain ⟨first, -, created⟩ := hold_append made
  obtain ⟨_, handedOut, rest⟩ := hold_cons created
  obtain ⟨-, -, rfl⟩ := hold_handedOut handedOut
  obtain ⟨left, used, asked⟩ := hold_append rest
  obtain ⟨last, other, -⟩ := hold_cons asked
  have unheld : left.held = none := by
    cases creation with
    | handedOut number => exact (hold_handedOut other).1
    | failed error => exact (hold_failed other).1
  have uncreated : between.filterMap Call.handedOut? = [] := by
    rw [List.filterMap_eq_nil_iff]
    intro call member
    have plain := uncreated call member
    cases call with
    | create => cases plain
    | _ => rfl
  have closed := closed_of_hold used
  rw [uncreated, unheld] at closed
  simpa using closed.symm

end

theorem Barrier.judge_ne_skipped {barrier : Barrier} {elapsedMs : Nat} {pending : Int}
    {result : WaitState} (judged : barrier.judge elapsedMs pending = some result) :
    result.outcome ≠ .skipped := by
  unfold Barrier.judge at judged
  split at judged
  · cases judged
    simp
  · split at judged
    · cases judged
      simp
    · cases judged

namespace Session

variable {ε : Type} {session : Session ε}

theorem mem_callsOf_create {given : SessionStep ε} {call : Call}
    (member : call ∈ session.callsOf given) (created : call.isCreate = true) :
    session.sink.clientHeld = false := by
  cases held : session.sink.clientHeld with
  | false => rfl
  | true =>
    cases given with
    | openAt place =>
      simp only [callsOf, held, if_true, List.append_nil] at member
      split at member
      · rw [List.mem_singleton.mp member] at created
        cases created
      · cases member
    | invoke _ | close =>
      simp only [callsOf] at member
      split at member
      · rw [List.mem_singleton.mp member] at created
        cases created
      · cases member
    | _ => cases member

/-- An open sink only hands on what its client says. -/
theorem invoke_opened (paired : session.Paired) (opened : session.sink.clientHeld = true)
    (element : ε) : (session.invoke element).1 =
      match (session.request? element).bind fun _ => session.refusal? with
      | some error => .error (.submit error)
      | none => .ok () := by
  obtain ⟨number, worker, held, hired⟩ := paired.opened opened
  simp only [invoke_hired held hired, request?, opened, refusal?, held, if_true, Option.bind_some]
  cases session.sink.schema session.clock element with
  | none => rfl
  | some group =>
    cases empty : group.logs.isEmpty with
    | true => simp [empty]
    | false =>
      simp only [empty, Bool.false_eq_true, if_false, Option.bind_some, ship, Client.refusal?]
      cases (session.client.send number).1 <;> rfl

/-- Only a sink that holds no client refuses an element because it is not open. -/
theorem notOpened_iff (paired : session.Paired) (element : ε) :
    (session.step (.invoke element)).1.answer = .failed .notOpened ↔
      session.sink.clientHeld = false := by
  show SessionAnswer.ofResult (session.clear.invoke element).1 = _ ↔ _
  cases held : session.sink.clientHeld with
  | false =>
    have closed : session.clear.sink.clientHeld = false := held
    rw [invoke_unopened closed]
    simp [SessionAnswer.ofResult]
  | true =>
    have cleared : session.clear.Paired := paired
    rw [invoke_opened cleared held]
    split <;> simp [SessionAnswer.ofResult]

/-- Only a sink that holds no client skips a checkpoint. -/
theorem skipped_iff (session : Session ε) :
    (∃ state, (session.step .snapshot).1.answer = .waited state ∧ state.outcome = .skipped) ↔
      session.sink.clientHeld = false := by
  show (∃ state, SessionAnswer.ofWait session.clear.snapshot.1 = _ ∧ _) ↔ _
  cases held : session.sink.clientHeld with
  | false =>
    have skipped : session.clear.snapshot.1 = some .skipped := by
      rw [Session.snapshot, if_neg (by simp [Session.clear, held])]
    rw [skipped]
    exact ⟨fun _ => rfl, fun _ => ⟨.skipped, rfl, rfl⟩⟩
  | true =>
    have waits : session.clear.snapshot = session.clear.wait := by
      rw [Session.snapshot, if_pos (by simp [Session.clear, held])]
    rw [waits]
    refine ⟨?_, fun closed => by cases closed⟩
    rintro ⟨state, answered, skipped⟩
    rcases waited : session.clear.timeline.wait session.clear.sink.barrier with ⟨result, final⟩
    have answer : session.clear.wait.1 = result := by rw [Session.wait, waited]
    cases result with
    | none =>
      rw [answer] at answered
      cases answered
    | some decided =>
      rw [answer] at answered
      cases answered
      obtain ⟨_, _, -, judged, -⟩ := drain_ended waited (fun _ _ => True) trivial
        fun _ _ _ => trivial
      exact absurd skipped (Barrier.judge_ne_skipped judged)

/-- A sink holds a client if and only if it holds a worker, and it is open exactly then: as long as the
last handover was that of a client to it. It asks for a client only when it holds none, and clients are
handed out and closed in turn, whether or not a close fails. Each of them has a number of its own, and
is closed exactly once before another is asked for; only the one that is held still was not closed. A
close never fails. A sink refuses elements and skips checkpoints if and only if it is not open, and then
nothing else that it was given matters. -/
theorem lifecycle (clock : UInt32) (client : Client) (settings : Settings)
    (schema : UInt32 → ε → Option LogGroup) (script : List (SessionStep ε)) :
    let begun := Session.new clock client (Sink.new settings schema)
    let session := begun.after script
    let calls := begun.trace script
    (session.sink.clientHeld = session.sink.worker.isSome ∧
        session.isOpen = session.sink.clientHeld) ∧
      (session.isOpen = true ↔ (calls.filterMap Call.handover?).getLast? = some true) ∧
      calls.filterMap Call.handover? = alternating true (calls.filterMap Call.handover?).length ∧
      calls.filterMap Call.handedOut? =
        calls.filterMap Call.closed? ++ session.sink.held.toList ∧
      (∃ count, calls.filterMap Call.handedOut? = List.range' client.handedOut count) ∧
      (∀ earlier between later first second destination other number creation,
        calls = earlier ++ .create first destination (.handedOut number) ::
          (between ++ .create second other creation :: later) →
        (∀ call ∈ between, call.isCreate = false) → between.filterMap Call.closed? = [number]) ∧
      (∀ given, ∀ call ∈ (session.step given).1.calls, call.isCreate = true →
        session.isOpen = false) ∧
      ((session.step .close).1.answer = .done ∧ (session.step .close).2.isOpen = false ∧
        (session.step .close).1.calls.filterMap Call.closed? = session.sink.held.toList) ∧
      (∀ element, (session.step (.invoke element)).1.answer = .failed .notOpened ↔
        session.isOpen = false) ∧
      (session.isOpen = false → ∀ element client schema partitioner,
        let other : Session ε := { session with
          client, sink := { session.sink with schema, partitioner } }
        other.invoke element = (.error .notOpened, other)) ∧
      ((∃ state, (session.step .snapshot).1.answer = .waited state ∧ state.outcome = .skipped) ↔
        session.isOpen = false) := by
  intro begun session calls
  have fresh : begun.Paired := rfl
  have paired : session.Paired := paired_after fresh script
  have made := hold_trace fresh script
  refine ⟨⟨paired, rfl⟩, ?_, handovers_of_hold made, closed_of_hold made, numbers_of_hold made, ?_, ?_,
    ⟨rfl, ?_, ?_⟩, notOpened_iff paired, ?_, skipped_iff session⟩
  · have last : session.isOpen = _ := isSome_of_hold made
    rw [last]
    show (calls.filterMap Call.handover?).getLast?.getD false = true ↔ _
    cases (calls.filterMap Call.handover?).getLast? <;> simp
  · intro earlier between later first second destination other number creation same uncreated
    rw [show begun.trace script = _ from same] at made
    exact closings_between made uncreated
  · intro given call member created
    rw [calls_step paired] at member
    exact mem_callsOf_create member created
  · exact (leaves_step paired .close).clientHeld
  · rw [calls_step paired, callsOf]
    cases session.sink.held <;> rfl
  · intro closed element client schema partitioner other
    have unopened : other.sink.clientHeld = false := closed
    exact invoke_unopened unopened element

end Session
end CheckpointSink
