import CheckpointSink.Proofs.Settlement.Rest

/-!
What tasks make of a ledger between two tasks. Each has one of a few effects, which are said here
once, with what every effect leaves as it was.
-/

namespace CheckpointSink.Settlement

namespace Ledger

/-! A forwarding task -/

/-- What a forwarding task makes of a ledger when it runs. -/
inductive Forwarded (ledger : Ledger) (id : Nat) : Ledger → Prop where
  /-- There is no outcome yet, or the task is through. -/
  | idle (undelivered : ∀ batch ∈ ledger.batches, batch.id = id → batch.delivered = none) :
    Forwarded ledger id ledger
  | queued {batch : Batch} {outcome : Outcome} {worker : Nat} {state : Worker}
      (member : batch ∈ ledger.batches) (this : batch.id = id)
      (stage : batch.stage = .waiting (some worker)) (delivered : batch.delivered = some outcome)
      (found : ledger.worker? worker = some state) (held : state.senderHeld = true) :
      Forwarded ledger id ((ledger.removeBatch id).setWorker worker
        { state with queue := state.queue ++ [(id, outcome)] })
  | inline {batch : Batch} {outcome : Outcome} (member : batch ∈ ledger.batches)
      (this : batch.id = id) (delivered : batch.delivered = some outcome) :
      Forwarded ledger id ((ledger.removeBatch id).complete outcome)

/-- An outcome that finds no open channel goes to the callback at once. -/
theorem attempts_inline {ledger : Ledger} {batch : Batch} {outcome : Outcome}
    (found : ledger.batch? batch.id = some batch) :
    (ledger.setStage batch.id (.inline outcome)).attempts
      [.send batch.id, .settleInline batch.id] = (ledger.removeBatch batch.id).complete outcome := by
  have known := batch?_setStage ledger batch.id (.inline outcome)
  rw [found, Option.map_some] at known
  have refused : (ledger.setStage batch.id (.inline outcome)).step? (.send batch.id) = none := by
    simp only [step?, send, known]
  have taken : (ledger.setStage batch.id (.inline outcome)).step? (.settleInline batch.id) =
      some ((ledger.removeBatch batch.id).complete outcome) := by
    simp only [step?, settleInline, known, removeBatch_setStage]
  rw [attempts_cons, attempt_of_refused refused, attempts_cons, attempt_of_taken taken, attempts_nil]

/-- An outcome that is sent to a running worker goes to the end of its queue. -/
theorem attempts_queued {ledger : Ledger} {batch : Batch} {outcome : Outcome} {worker : Nat}
    {state : Worker} (found : ledger.batch? batch.id = some batch)
    (present : ledger.worker? worker = some state) (runs : state.task = .running) :
    (ledger.setStage batch.id (.sending outcome worker)).attempts
      [.send batch.id, .settleInline batch.id] = (ledger.removeBatch batch.id).setWorker worker
        { state with queue := state.queue ++ [(batch.id, outcome)] } := by
  have known := batch?_setStage ledger batch.id (.sending outcome worker)
  rw [found, Option.map_some] at known
  have there : (ledger.setStage batch.id (.sending outcome worker)).worker? worker = some state :=
    present
  have sent : (ledger.setStage batch.id (.sending outcome worker)).step? (.send batch.id) =
      some ((ledger.removeBatch batch.id).setWorker worker
        { state with queue := state.queue ++ [(batch.id, outcome)] }) := by
    simp [step?, send, known, there, runs, removeBatch_setStage]
  have absent : ((ledger.removeBatch batch.id).setWorker worker
      { state with queue := state.queue ++ [(batch.id, outcome)] }).batch? batch.id = none :=
    batch?_removeBatch ledger batch.id
  have gone : ((ledger.removeBatch batch.id).setWorker worker
      { state with queue := state.queue ++ [(batch.id, outcome)] }).step?
        (.settleInline batch.id) = none := by
    simp only [step?, settleInline, absent]
  rw [attempts_cons, attempt_of_taken sent, attempts_cons, attempt_of_refused gone, attempts_nil]

theorem attempts_forward_idle {ledger : Ledger} {id : Nat}
    (idle : ∀ batch, ledger.batch? id = some batch →
      (∃ worker, batch.stage = .waiting worker) ∧ batch.delivered = none) :
    ledger.attempts [.receive id, .upgrade id, .send id, .settleInline id] = ledger := by
  cases found : ledger.batch? id with
  | none => simp [attempts, attempt, step?, receive, upgrade, send, settleInline, found]
  | some batch =>
    obtain ⟨⟨worker, waiting⟩, delivered⟩ := idle batch found
    simp [attempts, attempt, step?, receive, upgrade, send, settleInline, found, waiting, delivered]

/-- The outcome is there, and the forwarding task looks whether the channel is still open. -/
theorem attempts_received {ledger : Ledger} {batch : Batch} {outcome : Outcome} {worker : Option Nat}
    (found : ledger.batch? batch.id = some batch) (waiting : batch.stage = .waiting worker)
    (delivered : batch.delivered = some outcome) {stage : Stage}
    (upgraded : (ledger.setStage batch.id (.received outcome worker)).step? (.upgrade batch.id) =
      some (ledger.setStage batch.id stage)) :
    ledger.attempts [.receive batch.id, .upgrade batch.id, .send batch.id, .settleInline batch.id] =
      (ledger.setStage batch.id stage).attempts [.send batch.id, .settleInline batch.id] := by
  have received : ledger.step? (.receive batch.id) =
      some (ledger.setStage batch.id (.received outcome worker)) := by
    simp only [step?, receive, found, waiting, delivered]
  rw [attempts_cons, attempt_of_taken received, attempts_cons, attempt_of_taken upgraded]

/-- The channel is open while its sender is held. -/
theorem upgrade_received {ledger : Ledger} (resting : ledger.Resting) {batch : Batch}
    (found : ledger.batch? batch.id = some batch) (outcome : Outcome) (worker : Nat) :
    (ledger.setStage batch.id (.received outcome (some worker))).step? (.upgrade batch.id) =
      some (ledger.setStage batch.id (if ledger.holdsSender worker then .sending outcome worker
        else .inline outcome)) := by
  have known := batch?_setStage ledger batch.id (.received outcome (some worker))
  rw [found, Option.map_some] at known
  have open_ : (ledger.setStage batch.id (.received outcome (some worker))).isOpen worker =
      ledger.holdsSender worker := resting.isOpen_setStage batch.id worker rfl
  by_cases held : ledger.holdsSender worker = true <;>
    simp [step?, upgrade, known, open_, held, setStage_setStage]

/-- Where the channel of the worker that a batch waits for is open, its outcome goes to the worker;
elsewhere the forwarding task runs the callback. -/
theorem forwarded {ledger : Ledger} (resting : ledger.Resting) (distinct : ledger.ids.Nodup)
    (id : Nat) : Forwarded ledger id
      (ledger.attempts [.receive id, .upgrade id, .send id, .settleInline id]) := by
  by_cases idle : ∀ batch ∈ ledger.batches, batch.id = id → batch.delivered = none
  · rw [attempts_forward_idle]
    · exact .idle idle
    · intro batch found
      obtain ⟨member, this⟩ := batch?_some found
      exact ⟨resting.waiting batch member, idle batch member this⟩
  · push Not at idle
    obtain ⟨batch, member, rfl, given⟩ := idle
    obtain ⟨outcome, delivered⟩ := Option.ne_none_iff_exists'.mp given
    obtain ⟨worker, waiting⟩ := resting.waiting batch member
    have found := batch?_of_mem distinct member
    cases worker with
    | none =>
      have known := batch?_setStage ledger batch.id (.received outcome none)
      rw [found, Option.map_some] at known
      have upgraded : (ledger.setStage batch.id (.received outcome none)).step?
          (.upgrade batch.id) = some (ledger.setStage batch.id (.inline outcome)) := by
        simp only [step?, upgrade, known, setStage_setStage]
      rw [attempts_received found waiting delivered upgraded, attempts_inline found]
      exact .inline member rfl delivered
    | some worker =>
      rw [attempts_received found waiting delivered (upgrade_received resting found outcome worker)]
      by_cases held : ledger.holdsSender worker = true
      · obtain ⟨state, present, holds⟩ := (Option.any_eq_true _ _).mp held
        have runs := resting.senders state (mem_workers present) holds
        rw [if_pos held, attempts_queued found present runs]
        exact .queued member rfl waiting delivered present holds
      · rw [if_neg held, attempts_inline found]
        exact .inline member rfl delivered

theorem Forwarded.resting {ledger later : Ledger} {id : Nat} (forwarded : Forwarded ledger id later)
    (resting : ledger.Resting) : later.Resting := by
  cases forwarded with
  | idle => exact resting
  | queued member this stage delivered found held =>
    have runs := resting.senders _ (mem_workers found) held
    exact (resting.removeBatch id).setWorker (fun _ => runs) (fun _ => runs)
  | @inline batch outcome => exact (resting.removeBatch id).completeAll [outcome]

/-- What is left of the batches after a forwarding task: all but the one that it is through with. -/
theorem Forwarded.batches {ledger later : Ledger} {id : Nat} (forwarded : Forwarded ledger id later)
    {batch : Batch} (member : batch ∈ later.batches) :
    batch ∈ ledger.batches ∧ (batch.delivered ≠ none → batch.id ≠ id) := by
  cases forwarded with
  | idle undelivered => exact ⟨member, fun given same => given (undelivered batch member same)⟩
  | queued => exact ⟨(List.mem_filter.mp member).1, fun _ => by simpa using (List.mem_filter.mp member).2⟩
  | inline => exact ⟨(List.mem_filter.mp member).1, fun _ => by simpa using (List.mem_filter.mp member).2⟩

theorem Forwarded.undelivered {ledger later : Ledger} {id : Nat}
    (forwarded : Forwarded ledger id later) (distinct : ledger.ids.Nodup) :
    later.undelivered = ledger.undelivered := by
  cases forwarded with
  | idle => rfl
  | queued member this stage delivered =>
    subst this
    exact undelivered_removeBatch distinct member (by simp [delivered])
  | inline member this delivered =>
    subst this
    exact undelivered_removeBatch distinct member (by simp [delivered])

theorem Forwarded.next {ledger later : Ledger} {id : Nat} (forwarded : Forwarded ledger id later) :
    later.next = ledger.next := by
  cases forwarded <;> rfl

/-- A queue with something in it had something in it before, or the batch was waiting for it. -/
theorem Forwarded.queue {ledger later : Ledger} {id : Nat} (forwarded : Forwarded ledger id later)
    {worker : Nat} (busy : later.queue worker ≠ []) : ledger.queue worker ≠ [] ∨
      ∃ batch ∈ ledger.batches, batch.id = id ∧ batch.stage = .waiting (some worker) := by
  cases forwarded with
  | idle => exact .inl busy
  | @queued batch outcome target state member this stage =>
    by_cases same : worker = target
    · subst same
      exact .inr ⟨batch, member, this, stage⟩
    · rw [queue_setWorker_ne _ same] at busy
      exact .inl busy
  | inline => exact .inl busy

/-! A worker -/

/-- A worker that takes all of its queue runs the callbacks in order. -/
theorem attempts_take_all {ledger : Ledger} {worker : Nat} {state : Worker}
    (found : ledger.worker? worker = some state) (runs : state.task = .running) :
    ledger.attempts (List.replicate state.queue.length (.take worker)) =
      (ledger.setWorker worker { state with queue := [] }).completeAll
        (state.queue.map Prod.snd) := by
  obtain ⟨senderHeld, task, queue⟩ := state
  simp only at runs
  subst runs
  induction queue generalizing ledger with
  | nil => rw [setWorker_same found]; rfl
  | cons given rest ih =>
    obtain ⟨id, outcome⟩ := given
    have taken : ledger.step? (.take worker) =
        some ((ledger.setWorker worker ⟨senderHeld, .running, rest⟩).complete outcome) := by
      simp only [step?, take, found]
    have known : ((ledger.setWorker worker ⟨senderHeld, .running, rest⟩).complete outcome).worker?
      worker = some ⟨senderHeld, .running, rest⟩ := worker?_setWorker found _
    have swapped : ((ledger.setWorker worker ⟨senderHeld, .running, rest⟩).complete outcome).setWorker
        worker ⟨senderHeld, .running, []⟩ =
          (ledger.setWorker worker ⟨senderHeld, .running, []⟩).complete outcome :=
      congrArg (fun ledger => ledger.complete outcome) (setWorker_setWorker ledger worker _ _)
    rw [List.length_cons, List.replicate_succ, attempts_cons, attempt_of_taken taken, ih known,
      swapped]
    rfl

/-- What a worker makes of a ledger when it runs. -/
inductive Worked (ledger : Ledger) (worker : Nat) : Ledger → Prop where
  | idle (queue : ledger.queue worker = []) (ended : ledger.hasEnded worker = true) :
    Worked ledger worker ledger
  /-- The worker runs what is in its queue and waits for more. -/
  | kept {state : Worker} (found : ledger.worker? worker = some state)
      (held : state.senderHeld = true) :
      Worked ledger worker ((ledger.setWorker worker { state with queue := [] }).completeAll
        (state.queue.map Prod.snd))
  /-- The worker runs what is in its queue and ends. -/
  | drained {state : Worker} (found : ledger.worker? worker = some state)
      (released : state.senderHeld = false) :
      Worked ledger worker
        (((ledger.setWorker worker { state with task := .ended, queue := [] }).completeAll
          (state.queue.map Prod.snd)).enter .workerDrained)
  | aborted {state : Worker} (found : ledger.worker? worker = some state)
      (cancelled : state.task = .cancelling) (queue : state.queue = []) :
      Worked ledger worker (ledger.setWorker worker { state with task := .ended })

theorem worked_running {ledger : Ledger} (resting : ledger.Resting) {worker : Nat} {state : Worker}
    (found : ledger.worker? worker = some state) (runs : state.task = .running) :
    Worked ledger worker (ledger.attempts
      (List.replicate state.queue.length (.take worker) ++ [.finish worker])) := by
  have taken := attempts_take_all found runs
  have split : ledger.attempts (List.replicate state.queue.length (.take worker) ++ [.finish worker]) =
      ((ledger.setWorker worker { state with queue := [] }).completeAll
        (state.queue.map Prod.snd)).attempt (.finish worker) := by
    rw [← taken]
    simp only [attempts, List.foldl_append, List.foldl_cons, List.foldl_nil]
  rw [split]
  generalize reached : (ledger.setWorker worker { state with queue := [] }).completeAll
    (state.queue.map Prod.snd) = later
  have workers : later.workers = (ledger.setWorker worker { state with queue := [] }).workers := by
    rw [← reached, workers_completeAll]
  have batches : later.batches = ledger.batches := by
    rw [← reached, batches_completeAll]
    rfl
  have known : later.worker? worker = some { state with queue := [] } := by
    rw [worker?, workers]
    exact worker?_setWorker found _
  have open_ : later.isOpen worker = state.senderHeld := by
    simp only [isOpen, known, batches, resting.none_sends, Option.any_some, Bool.or_false]
  cases held : state.senderHeld with
  | true =>
    have waits : later.step? (.finish worker) = none := by
      simp [step?, finish, known, open_, held]
    rw [attempt_of_refused waits, ← reached]
    exact .kept found held
  | false =>
    have ended : later.step? (.finish worker) = some ((later.setWorker worker
        { state with task := .ended, queue := [] }).enter .workerDrained) := by
      simp [step?, finish, known, open_, held, runs]
    rw [attempt_of_taken ended, ← reached, setWorker_completeAll, setWorker_setWorker]
    exact .drained found held

/-- A worker runs the callbacks of its queue in order, and it ends once its channel is closed or it
was cancelled. -/
theorem worked {history : History} {ledger : Ledger} (resting : ledger.Resting)
    (run : Run history ledger) (worker : Nat) :
    Worked ledger worker (ledger.attempts ((Task.work worker).steps ledger)) := by
  simp only [Task.steps]
  cases found : ledger.worker? worker with
  | none =>
    have queue : ledger.queue worker = [] := by simp only [queue, found]
    have ended : ledger.hasEnded worker = true := by simp only [hasEnded, found]
    simpa [queue, attempts, attempt, step?, finish, found] using Worked.idle queue ended
  | some state =>
    rw [queue_of_found found]
    cases task : state.task with
    | running => simpa [task] using worked_running resting found task
    | cancelling =>
      have queue : state.queue = [] := by
        by_contra busy
        have runs := resting.queues state (mem_workers found) busy
        rw [task] at runs
        cases runs
      have aborted : ledger.attempts [.abort worker] =
          ledger.setWorker worker { state with task := .ended } := by
        obtain ⟨senderHeld, task, inQueue⟩ := state
        simp only at task queue
        subst task queue
        simp [attempts, attempt, step?, abort, found, setWorker]
      simpa [task, aborted] using Worked.aborted found task queue
    | ended =>
      have queue := run.placed.ended state (mem_workers found) task
      have idle : ledger.queue worker = [] := by rw [queue_of_found found, queue]
      have ended : ledger.hasEnded worker = true := by simp [hasEnded, found, task]
      simpa [task, queue, attempts, attempt, step?, finish, found] using Worked.idle idle ended

theorem Worked.resting {ledger later : Ledger} {worker : Nat} (worked : Worked ledger worker later)
    (resting : ledger.Resting) : later.Resting := by
  cases worked with
  | idle => exact resting
  | @kept state found held =>
    have runs := resting.senders _ (mem_workers found) held
    have kept : (ledger.setWorker worker { state with queue := [] }).Resting :=
      resting.setWorker (fun busy => absurd rfl busy) (fun _ => runs)
    exact kept.completeAll _
  | @drained state found released =>
    have ended : (ledger.setWorker worker { state with task := .ended, queue := [] }).Resting :=
      resting.setWorker (fun busy => absurd rfl busy) (by simp [released])
    exact (ended.completeAll (state.queue.map Prod.snd)).reported _ _
  | @aborted state found cancelled queue =>
    have ended : state.senderHeld ≠ true := fun held => by
      have runs := resting.senders _ (mem_workers found) held
      rw [cancelled] at runs
      cases runs
    exact resting.setWorker (fun busy => absurd queue busy) (fun held => absurd held ended)

theorem Worked.batches {ledger later : Ledger} {worker : Nat} (worked : Worked ledger worker later) :
    later.batches = ledger.batches := by
  cases worked with
  | idle => rfl
  | kept => rw [batches_completeAll]; rfl
  | drained => exact batches_completeAll _ _
  | aborted => rfl

theorem Worked.next {ledger later : Ledger} {worker : Nat} (worked : Worked ledger worker later) :
    later.next = ledger.next := by
  cases worked with
  | idle => rfl
  | kept => rw [next_completeAll]; rfl
  | drained => exact next_completeAll _ _
  | aborted => rfl

/-- The worker's own queue is empty afterwards, and the others are as they were. -/
theorem Worked.queue {ledger later : Ledger} {worker other : Nat}
    (worked : Worked ledger worker later) (busy : later.queue other ≠ []) :
    other ≠ worker ∧ ledger.queue other ≠ [] := by
  cases worked with
  | idle queue => exact ⟨fun same => busy (same ▸ queue), busy⟩
  | kept found =>
    rw [queue_completeAll] at busy
    exact queue_emptied found rfl busy
  | drained found =>
    change (Ledger.completeAll _ _).queue other ≠ [] at busy
    rw [queue_completeAll] at busy
    exact queue_emptied found rfl busy
  | @aborted state found cancelled queue =>
    have empty : Worker.queue { state with task := .ended } = [] := queue
    exact queue_emptied found empty busy

/-- A worker whose channel was given up has ended after it has run. -/
theorem Worked.ended {ledger later : Ledger} {worker : Nat} (worked : Worked ledger worker later)
    (released : ledger.holdsSender worker = false) : later.hasEnded worker = true := by
  cases worked with
  | idle queue ended => exact ended
  | kept found held => simp [holdsSender, found, held] at released
  | drained found =>
    show (Ledger.completeAll _ _).hasEnded worker = true
    rw [hasEnded_completeAll]
    exact hasEnded_setWorker found rfl
  | aborted found => exact hasEnded_setWorker found rfl

end Ledger
end CheckpointSink.Settlement
