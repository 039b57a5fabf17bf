import CheckpointSink.Proofs.Settlement.Exactness
import CheckpointSink.Settlement.Timeline

/-!
Ledgers between two tasks. No task stops halfway, so every batch outside of the queues waits for its
outcome, and only a running worker has anything in its queue.
-/

namespace CheckpointSink.Settlement

/-- A ledger that some steps lead to, and in which no callback has found the count empty. -/
structure Ledger.Booked (ledger : Ledger) : Prop where
  run : ∃ history, Run history ledger
  clean : Entry.underflow ∉ ledger.entries

namespace Ledger

theorem entries_complete (ledger : Ledger) (outcome : Outcome) (counted : 0 < ledger.pending) :
    (ledger.complete outcome).entries =
      (outcome.report?.map fun event => Entry.event event (ledger.pending - 1)).toList ++
        ledger.entries := by
  simp only [complete, settle_counted counted]
  cases outcome.report? <;> rfl

theorem clean_complete (ledger : Ledger) (clean : Entry.underflow ∉ ledger.entries)
    (counted : 0 < ledger.pending) (outcome : Outcome) :
    Entry.underflow ∉ (ledger.complete outcome).entries := by
  rw [entries_complete ledger outcome counted]
  cases outcome.report? <;> simpa using clean

/-- A callback that runs finds its batch counted. -/
theorem counted_of_mem {history : History} {ledger : Ledger} (run : Run history ledger) {id : Nat}
    (member : id ∈ ledger.outstanding) : 0 < ledger.pending := by
  have some := List.length_pos_of_mem member
  have total := run.accounted.pending_eq
  omega

namespace Booked

variable {ledger : Ledger}

theorem step (booked : ledger.Booked) {later : Ledger} {given : Step}
    (taken : ledger.step? given = some later) : later.Booked := by
  obtain ⟨history, run⟩ := booked.run
  refine ⟨⟨_, run.step taken⟩, ?_⟩
  cases transition_of_step? taken with
  | settleInline member =>
    have counted := counted_of_mem run (List.mem_append_left _ (List.mem_append_left _
      (List.mem_map_of_mem member)))
    exact clean_complete (ledger.removeBatch _) booked.clean counted _
  | @take worker id state outcome rest found takes queue =>
    have queued : (id, outcome) ∈ ledger.queued :=
      mem_queued.mpr ⟨state, mem_workers found, by rw [queue]; exact List.mem_cons_self⟩
    have counted := counted_of_mem run (List.mem_append_left _ (List.mem_append_right _
      (List.mem_map_of_mem queued)))
    exact clean_complete (ledger.setWorker _ _) booked.clean counted _
  | finish =>
    intro member
    rcases List.mem_cons.mp member with same | old
    · cases same
    · exact booked.clean old
  | _ => exact booked.clean

theorem attempt (booked : ledger.Booked) (step : Step) : (ledger.attempt step).Booked := by
  unfold Ledger.attempt
  cases taken : ledger.step? step with
  | none => exact booked
  | some later => exact booked.step taken

theorem attempts (booked : ledger.Booked) (steps : List Step) : (ledger.attempts steps).Booked := by
  induction steps generalizing ledger with
  | nil => exact booked
  | cons step rest ih => exact ih (booked.attempt step)

theorem enter (booked : ledger.Booked) (event : Event) : (ledger.enter event).Booked := by
  obtain ⟨history, run⟩ := booked.run
  refine ⟨⟨history, run.report _⟩, ?_⟩
  simpa [Ledger.enter] using booked.clean

theorem clear (booked : ledger.Booked) : Booked { ledger with entries := [] } := by
  obtain ⟨history, run⟩ := booked.run
  exact ⟨⟨history, run.report []⟩, by simp⟩

theorem empty : Booked .empty :=
  ⟨⟨.empty, .start⟩, List.not_mem_nil⟩

theorem distinct (booked : ledger.Booked) : ledger.ids.Nodup := by
  obtain ⟨history, run⟩ := booked.run
  exact run.accounted.distinct

end Booked

/-- The ledger between two tasks. -/
structure Resting (ledger : Ledger) : Prop where
  waiting : ∀ batch ∈ ledger.batches, ∃ worker, batch.stage = .waiting worker
  queues : ∀ state ∈ ledger.workers, state.queue ≠ [] → state.task = .running
  senders : ∀ state ∈ ledger.workers, state.senderHeld = true → state.task = .running
  discarded : ledger.discarded = []

theorem Resting.empty : Resting .empty where
  waiting _ member := absurd member List.not_mem_nil
  queues _ member := absurd member List.not_mem_nil
  senders _ member := absurd member List.not_mem_nil
  discarded := rfl

/-- Neither the count nor the entries matter. -/
theorem Resting.reported {ledger : Ledger} (resting : ledger.Resting) (pending : Int)
    (entries : List Entry) : Resting { ledger with pending, entries } :=
  ⟨resting.waiting, resting.queues, resting.senders, resting.discarded⟩

/-! Single steps -/

theorem attempt_of_taken {ledger later : Ledger} {step : Step}
    (taken : ledger.step? step = some later) : ledger.attempt step = later := by
  simp only [attempt, taken, Option.getD_some]

theorem attempt_of_refused {ledger : Ledger} {step : Step} (refused : ledger.step? step = none) :
    ledger.attempt step = ledger := by
  simp only [attempt, refused, Option.getD_none]

theorem attempts_cons (ledger : Ledger) (step : Step) (rest : List Step) :
    ledger.attempts (step :: rest) = (ledger.attempt step).attempts rest := rfl

theorem attempts_nil (ledger : Ledger) : ledger.attempts [] = ledger := rfl

/-! Batches -/

theorem batch?_setStage (ledger : Ledger) (id : Nat) (stage : Stage) :
    (ledger.setStage id stage).batch? id =
      (ledger.batch? id).map fun batch => { batch with stage } := by
  simp only [batch?, setStage, List.find?_map, Function.comp_def, restage_id]
  cases found : ledger.batches.find? fun batch => decide (batch.id = id) with
  | none => rfl
  | some batch =>
    have this : batch.id = id := by simpa using List.find?_some found
    simp [this]

theorem setStage_setStage (ledger : Ledger) (id : Nat) (first second : Stage) :
    (ledger.setStage id first).setStage id second = ledger.setStage id second := by
  simp only [setStage, List.map_map]
  congr 2
  funext batch
  by_cases same : batch.id = id <;> simp [same]

theorem removeBatch_setStage (ledger : Ledger) (id : Nat) (stage : Stage) :
    (ledger.setStage id stage).removeBatch id = ledger.removeBatch id := by
  simp only [removeBatch, setStage, List.filter_map, Function.comp_def, restage_id]
  congr 1
  conv_rhs => rw [← List.map_id (ledger.batches.filter _)]
  apply List.map_congr_left
  intro batch member
  have different : batch.id ≠ id := by simpa using (List.mem_filter.mp member).2
  simp [different]

theorem batch?_removeBatch (ledger : Ledger) (id : Nat) : (ledger.removeBatch id).batch? id = none := by
  apply List.find?_eq_none.mpr
  intro batch member
  simpa using (List.mem_filter.mp member).2

/-- In a ledger between two tasks a channel is open only while its worker's sender is held. -/
theorem Resting.isOpen_setStage {ledger : Ledger} (resting : ledger.Resting) (id worker : Nat)
    {stage : Stage} (quiet : stage.target? = none) :
    (ledger.setStage id stage).isOpen worker = ledger.holdsSender worker := by
  have none_sends : (ledger.setStage id stage).batches.any (isSendingTo worker) = false := by
    rw [List.any_eq_false]
    intro batch member
    obtain ⟨old, oldMember, rfl⟩ := List.mem_map.mp member
    obtain ⟨target, waiting⟩ := resting.waiting old oldMember
    by_cases this : old.id = id
    · rw [if_pos this]
      cases stage <;> simp_all [isSendingTo, Stage.target?]
    · rw [if_neg this]
      simp [isSendingTo, waiting]
  simp only [isOpen, none_sends, Bool.or_false]
  rfl

theorem Resting.none_sends {ledger : Ledger} (resting : ledger.Resting) (worker : Nat) :
    ledger.batches.any (isSendingTo worker) = false := by
  rw [List.any_eq_false]
  intro batch member
  obtain ⟨target, waiting⟩ := resting.waiting batch member
  simp [isSendingTo, waiting]

theorem Resting.removeBatch {ledger : Ledger} (resting : ledger.Resting) (id : Nat) :
    (ledger.removeBatch id).Resting :=
  { resting with waiting := fun batch member =>
      resting.waiting batch (mem_of_mem_removeBatch member) }

/-- The batches whose resolvers are neither used nor dropped. -/
def undelivered (ledger : Ledger) : List Nat :=
  (ledger.batches.filter fun batch => batch.delivered.isNone).map Batch.id

theorem undelivered_subset {ledger : Ledger} {id : Nat} (member : id ∈ ledger.undelivered) :
    ∃ batch ∈ ledger.batches, batch.id = id ∧ batch.delivered = none := by
  obtain ⟨batch, kept, this⟩ := List.mem_map.mp member
  obtain ⟨known, open_⟩ := List.mem_filter.mp kept
  exact ⟨batch, known, this, by simpa using open_⟩

theorem undelivered_removeBatch {ledger : Ledger} (distinct : ledger.ids.Nodup) {batch : Batch}
    (member : batch ∈ ledger.batches) (delivered : batch.delivered ≠ none) :
    (ledger.removeBatch batch.id).undelivered = ledger.undelivered := by
  simp only [undelivered, removeBatch, List.filter_filter]
  congr 1
  apply List.filter_congr
  intro other known
  by_cases same : other.id = batch.id
  · rw [unique_batch distinct known member same]
    cases given : batch.delivered with
    | none => exact absurd given delivered
    | some outcome => simp
  · simp [same]

theorem undelivered_setDelivered (ledger : Ledger) (id : Nat) (outcome : Outcome) :
    (ledger.setDelivered id outcome).undelivered = ledger.undelivered.filter (· ≠ id) := by
  simp only [undelivered, setDelivered]
  induction ledger.batches with
  | nil => rfl
  | cons batch rest ih =>
    by_cases same : batch.id = id <;> cases given : batch.delivered <;> simp_all

theorem attempts_deliver {ledger : Ledger} (distinct : ledger.ids.Nodup) {id : Nat}
    (open_ : id ∈ ledger.undelivered) (outcome : Outcome) :
    ledger.attempts [.deliver id outcome] = ledger.setDelivered id outcome := by
  obtain ⟨batch, member, rfl, undelivered⟩ := undelivered_subset open_
  have found := batch?_of_mem distinct member
  have taken : ledger.step? (.deliver batch.id outcome) =
      some (ledger.setDelivered batch.id outcome) := by
    simp [step?, deliver, found, undelivered]
  exact attempt_of_taken taken

theorem batches_setDelivered {ledger : Ledger} {id : Nat} {outcome : Outcome} {batch : Batch}
    (member : batch ∈ (ledger.setDelivered id outcome).batches) :
    batch.id = id ∨ batch ∈ ledger.batches := by
  obtain ⟨old, known, rfl⟩ := List.mem_map.mp member
  by_cases same : old.id = id
  · exact .inl (by simp [same])
  · exact .inr (by simpa [same] using known)

theorem Resting.setDelivered {ledger : Ledger} (resting : ledger.Resting) (id : Nat)
    (outcome : Outcome) : (ledger.setDelivered id outcome).Resting where
  waiting := by
    intro batch member
    obtain ⟨old, known, rfl⟩ := List.mem_map.mp member
    obtain ⟨worker, waiting⟩ := resting.waiting old known
    refine ⟨worker, ?_⟩
    by_cases same : old.id = id <;> simp [same, waiting]
  queues := resting.queues
  senders := resting.senders
  discarded := resting.discarded

/-! Workers -/

theorem worker?_setWorker {ledger : Ledger} {worker : Nat} {old : Worker}
    (found : ledger.worker? worker = some old) (new : Worker) :
    (ledger.setWorker worker new).worker? worker = some new := by
  have bound : worker < ledger.workers.length := (List.getElem?_eq_some_iff.mp found).1
  simp [worker?, setWorker, bound]

theorem setWorker_setWorker (ledger : Ledger) (worker : Nat) (first second : Worker) :
    (ledger.setWorker worker first).setWorker worker second = ledger.setWorker worker second := by
  simp only [setWorker, List.set_set]

theorem setWorker_same {ledger : Ledger} {worker : Nat} {state : Worker}
    (found : ledger.worker? worker = some state) : ledger.setWorker worker state = ledger := by
  simp only [setWorker, set_same found]

theorem queue_of_found {ledger : Ledger} {worker : Nat} {state : Worker}
    (found : ledger.worker? worker = some state) : ledger.queue worker = state.queue := by
  simp only [queue, found]

theorem queue_setWorker_ne (ledger : Ledger) {worker other : Nat} (different : other ≠ worker)
    (new : Worker) : (ledger.setWorker worker new).queue other = ledger.queue other := by
  simp only [queue, worker?, setWorker, List.getElem?_set_ne (Ne.symm different)]

theorem queue_setWorker {ledger : Ledger} {worker : Nat} {old : Worker}
    (found : ledger.worker? worker = some old) (new : Worker) :
    (ledger.setWorker worker new).queue worker = new.queue :=
  queue_of_found (worker?_setWorker found new)

theorem hasEnded_setWorker {ledger : Ledger} {worker : Nat} {old new : Worker}
    (found : ledger.worker? worker = some old) (ended : new.task = .ended) :
    (ledger.setWorker worker new).hasEnded worker = true := by
  simp [hasEnded, worker?_setWorker found, ended]

/-- A queue that has something in it is none that was just emptied. -/
theorem queue_emptied {ledger : Ledger} {worker other : Nat} {old new : Worker}
    (found : ledger.worker? worker = some old) (empty : new.queue = [])
    (busy : (ledger.setWorker worker new).queue other ≠ []) :
    other ≠ worker ∧ ledger.queue other ≠ [] := by
  by_cases same : other = worker
  · subst same
    rw [queue_setWorker found, empty] at busy
    exact absurd rfl busy
  · rw [queue_setWorker_ne _ same] at busy
    exact ⟨same, busy⟩

theorem Resting.setWorker {ledger : Ledger} (resting : ledger.Resting) {worker : Nat} {new : Worker}
    (queue : new.queue ≠ [] → new.task = .running)
    (sender : new.senderHeld = true → new.task = .running) : (ledger.setWorker worker new).Resting where
  waiting := resting.waiting
  queues := by
    intro state member
    rcases List.mem_or_eq_of_mem_set member with old | rfl
    · exact resting.queues state old
    · exact queue
  senders := by
    intro state member
    rcases List.mem_or_eq_of_mem_set member with old | rfl
    · exact resting.senders state old
    · exact sender
  discarded := resting.discarded

/-- No worker is lost, no channel that was given up is taken back, and no worker that has ended goes
on. -/
structure Staffed (before after : Ledger) : Prop where
  hired : before.workers.length ≤ after.workers.length
  released : ∀ worker < before.workers.length,
    before.holdsSender worker = false → after.holdsSender worker = false
  ended : ∀ worker < before.workers.length,
    before.hasEnded worker = true → after.hasEnded worker = true

namespace Staffed

theorem of_workers {before after : Ledger} (same : after.workers = before.workers) :
    Staffed before after where
  hired := by rw [same]
  released := by
    intro worker _ released
    simpa only [holdsSender, worker?, same] using released
  ended := by
    intro worker _ ended
    simpa only [hasEnded, worker?, same] using ended

theorem trans {first second third : Ledger} (earlier : Staffed first second)
    (later : Staffed second third) : Staffed first third where
  hired := earlier.hired.trans later.hired
  released worker bound released :=
    later.released worker (Nat.lt_of_lt_of_le bound earlier.hired)
      (earlier.released worker bound released)
  ended worker bound ended :=
    later.ended worker (Nat.lt_of_lt_of_le bound earlier.hired) (earlier.ended worker bound ended)

theorem of_set {before after : Ledger} {worker : Nat} {old new : Worker}
    (found : before.worker? worker = some old) (same : after.workers = before.workers.set worker new)
    (sender : new.senderHeld = old.senderHeld ∨ new.senderHeld = false)
    (task : old.task = .ended → new.task = .ended) : Staffed before after where
  hired := by simp [same]
  released := by
    intro other bound released
    by_cases this : other = worker
    · subst this
      simp only [holdsSender, found, Option.any_some] at released
      rw [released, or_self] at sender
      simp [holdsSender, worker?, same, bound, sender]
    · simpa only [holdsSender, worker?, same,
        List.getElem?_set_ne (Ne.symm this)] using released
  ended := by
    intro other bound ended
    by_cases this : other = worker
    · subst this
      simp only [hasEnded, found, decide_eq_true_eq] at ended
      simp [hasEnded, worker?, same, bound, task ended]
    · simpa only [hasEnded, worker?, same, List.getElem?_set_ne (Ne.symm this)] using ended

theorem step {ledger later : Ledger} {given : Step} (taken : ledger.step? given = some later) :
    Staffed ledger later := by
  cases transition_of_step? taken with
  | start =>
    refine ⟨by simp [Ledger.start], ?_, ?_⟩
    · intro worker bound released
      simpa only [holdsSender, worker?, Ledger.start, List.getElem?_append_left bound] using released
    · intro worker bound ended
      simpa only [hasEnded, worker?, Ledger.start, List.getElem?_append_left bound] using ended
  | send member stage found => exact of_set found rfl (.inl rfl) id
  | release found => exact of_set found rfl (.inr rfl) id
  | take found => exact of_set found rfl (.inl rfl) id
  | finish found => exact of_set found rfl (.inl rfl) fun _ => rfl
  | cancel found runs =>
    refine of_set found rfl (.inl rfl) fun ended => ?_
    rw [runs] at ended
    cases ended
  | abort found => exact of_set found rfl (.inl rfl) fun _ => rfl
  | _ => exact of_workers rfl

theorem attempts (ledger : Ledger) (steps : List Step) : Staffed ledger (ledger.attempts steps) := by
  induction steps generalizing ledger with
  | nil => exact of_workers rfl
  | cons given rest ih =>
    refine trans ?_ (ih (ledger.attempt given))
    unfold attempt
    cases taken : ledger.step? given with
    | none => exact of_workers rfl
    | some later => exact step taken

end Staffed

/-! Callbacks -/

/-- The callbacks of some outcomes, one after the other. -/
def completeAll (ledger : Ledger) (outcomes : List Outcome) : Ledger :=
  outcomes.foldl complete ledger

/-- Callbacks change nothing but the count and the entries. -/
theorem completeAll_eq (ledger : Ledger) (outcomes : List Outcome) :
    ledger.completeAll outcomes = { ledger with
      pending := (ledger.completeAll outcomes).pending
      entries := (ledger.completeAll outcomes).entries } := by
  induction outcomes generalizing ledger with
  | nil => rfl
  | cons outcome rest ih => exact ih (ledger.complete outcome)

theorem batches_completeAll (ledger : Ledger) (outcomes : List Outcome) :
    (ledger.completeAll outcomes).batches = ledger.batches := by
  rw [completeAll_eq]

theorem workers_completeAll (ledger : Ledger) (outcomes : List Outcome) :
    (ledger.completeAll outcomes).workers = ledger.workers := by
  rw [completeAll_eq]

theorem next_completeAll (ledger : Ledger) (outcomes : List Outcome) :
    (ledger.completeAll outcomes).next = ledger.next := by
  rw [completeAll_eq]

theorem queue_completeAll (ledger : Ledger) (outcomes : List Outcome) (worker : Nat) :
    (ledger.completeAll outcomes).queue worker = ledger.queue worker := by
  rw [completeAll_eq]
  rfl

theorem hasEnded_completeAll (ledger : Ledger) (outcomes : List Outcome) (worker : Nat) :
    (ledger.completeAll outcomes).hasEnded worker = ledger.hasEnded worker := by
  rw [completeAll_eq]
  rfl

theorem setWorker_completeAll (ledger : Ledger) (worker : Nat) (state : Worker)
    (outcomes : List Outcome) :
    (ledger.completeAll outcomes).setWorker worker state =
      (ledger.setWorker worker state).completeAll outcomes := by
  induction outcomes generalizing ledger with
  | nil => rfl
  | cons outcome rest ih => exact ih (ledger.complete outcome)

theorem Resting.completeAll {ledger : Ledger} (resting : ledger.Resting) (outcomes : List Outcome) :
    (ledger.completeAll outcomes).Resting := by
  rw [completeAll_eq]
  exact resting.reported _ _

end Ledger
end CheckpointSink.Settlement
