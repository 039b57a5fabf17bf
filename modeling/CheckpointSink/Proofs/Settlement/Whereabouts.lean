import CheckpointSink.Proofs.Settlement.History

/-!
Where a batch can be, given its history. An outcome is only ever passed on, from the resolver over
the forwarding task and the queue of a worker to the callback. When no task can go on, every outcome
has reached its callback, unless it was in the queue of an aborted worker.
-/

namespace CheckpointSink.Settlement

/-- The outcome that a forwarding task has in its hands. -/
def Stage.outcome? : Stage → Option Outcome
  | counted => none
  | waiting _ => none
  | received outcome _ => some outcome
  | sending outcome _ => some outcome
  | inline outcome => some outcome

/-- The worker whose channel a forwarding task keeps open. -/
def Stage.target? : Stage → Option Nat
  | sending _ worker => some worker
  | _ => none

/-- What a batch outside of all queues says of itself is in its history. -/
structure Batch.Placed (history : History) (workers : Nat) (batch : Batch) : Prop where
  attached : batch.stage = .counted ↔ batch.id ∉ history.attached
  delivered : ∀ outcome, batch.delivered = some outcome ↔ (batch.id, outcome) ∈ history.delivered
  carried : ∀ outcome, batch.stage.outcome? = some outcome → batch.delivered = some outcome
  target : ∀ worker, batch.stage.target? = some worker → worker < workers

structure Placed (history : History) (ledger : Ledger) : Prop where
  attached : ∀ id ∈ history.attached, id < ledger.next
  delivered : ∀ given ∈ history.delivered, given.1 < ledger.next
  batches : ∀ batch ∈ ledger.batches, batch.Placed history ledger.workers.length
  queued : ∀ given ∈ ledger.queued, given ∈ history.delivered
  completed : ∀ given ∈ history.completed, given ∈ history.delivered
  ended : ∀ state ∈ ledger.workers, state.task = .ended → state.queue = []

namespace Ledger

/-- Only the batch of the given number changes. -/
theorem forall_changed {ledger : Ledger} (distinct : ledger.ids.Nodup) {batch : Batch}
    (member : batch ∈ ledger.batches) {change : Batch → Batch} {holds : Batch → Prop}
    (others : ∀ other ∈ ledger.batches, other.id ≠ batch.id → holds other)
    (this : holds (change batch)) :
    ∀ other ∈ ledger.batches.map (fun other => if other.id = batch.id then change other else other),
      holds other := by
  intro other placed
  obtain ⟨old, oldMember, rfl⟩ := List.mem_map.mp placed
  by_cases same : old.id = batch.id
  · rw [if_pos same, unique_batch distinct oldMember member same]
    exact this
  · rw [if_neg same]
    exact others old oldMember same

theorem mem_of_mem_removeBatch {ledger : Ledger} {id : Nat} {batch : Batch}
    (member : batch ∈ (ledger.removeBatch id).batches) : batch ∈ ledger.batches :=
  (List.mem_filter.mp member).1

theorem mem_queued {ledger : Ledger} {given : Nat × Outcome} :
    given ∈ ledger.queued ↔ ∃ state ∈ ledger.workers, given ∈ state.queue := by
  simp [queued]

theorem mem_workers {ledger : Ledger} {worker : Nat} {state : Worker}
    (found : ledger.worker? worker = some state) : state ∈ ledger.workers :=
  List.mem_of_getElem? found

end Ledger

namespace Placed

variable {history : History} {ledger : Ledger}

theorem start : Placed .empty .empty := by
  constructor <;> simp [History.empty, Ledger.empty, Ledger.queued]

/-- Neither the count nor what was discarded or entered matters. -/
theorem of_same (placed : Placed history ledger) {later : Ledger} (next : later.next = ledger.next)
    (batches : later.batches = ledger.batches) (workers : later.workers = ledger.workers) :
    Placed history later := by
  obtain ⟨pending, number, ways, staff, discarded, entries⟩ := later
  subst next batches workers
  exact ⟨placed.attached, placed.delivered, placed.batches, placed.queued, placed.completed,
    placed.ended⟩

/-- An open channel belongs to a worker. -/
theorem lt_of_isOpen (placed : Placed history ledger) {worker : Nat}
    (open_ : ledger.isOpen worker = true) : worker < ledger.workers.length := by
  simp only [Ledger.isOpen, Bool.or_eq_true] at open_
  rcases open_ with held | sent
  · cases found : ledger.worker? worker with
    | none => simp [found] at held
    | some state => exact (List.getElem?_eq_some_iff.mp found).1
  · obtain ⟨sender, member, sends⟩ := List.any_eq_true.mp sent
    apply (placed.batches sender member).target worker
    simp only [Ledger.isSendingTo] at sends
    split at sends <;> simp_all [Stage.target?]

theorem startWorker (placed : Placed history ledger) : Placed history ledger.start where
  attached := placed.attached
  delivered := placed.delivered
  batches := by
    intro batch member
    have sound := placed.batches batch member
    refine ⟨sound.attached, sound.delivered, sound.carried, fun worker sending => ?_⟩
    exact (sound.target worker sending).trans_le (by simp [Ledger.start])
  queued := by simpa [Ledger.start, Ledger.queued, Worker.fresh] using placed.queued
  completed := placed.completed
  ended := by
    intro state member
    rcases List.mem_append.mp member with old | new
    · exact placed.ended state old
    · rw [List.mem_singleton.mp new]
      exact fun _ => rfl

/-- A change to one worker, after which its queue holds nothing new. -/
theorem setWorker (placed : Placed history ledger) {worker : Nat} {new : Worker}
    (queue : ∀ given ∈ new.queue, given ∈ history.delivered)
    (ended : new.task = .ended → new.queue = []) : Placed history (ledger.setWorker worker new) where
  attached := placed.attached
  delivered := placed.delivered
  batches := by
    simp only [Ledger.setWorker, List.length_set]
    exact placed.batches
  queued := by
    intro given member
    obtain ⟨state, stateMember, queued⟩ := Ledger.mem_queued.mp member
    rcases List.mem_or_eq_of_mem_set stateMember with old | rfl
    · exact placed.queued given (Ledger.mem_queued.mpr ⟨state, old, queued⟩)
    · exact queue given queued
  completed := placed.completed
  ended := by
    intro state member
    rcases List.mem_or_eq_of_mem_set member with old | rfl
    · exact placed.ended state old
    · exact ended

theorem removeBatch (placed : Placed history ledger) (id : Nat) :
    Placed history (ledger.removeBatch id) :=
  { placed with batches := fun batch member =>
      placed.batches batch (Ledger.mem_of_mem_removeBatch member) }

theorem complete (placed : Placed history ledger) {id : Nat} {outcome : Outcome}
    (delivered : (id, outcome) ∈ history.delivered) :
    Placed { history with completed := history.completed ++ [(id, outcome)] }
      (ledger.complete outcome) where
  attached := placed.attached
  delivered := placed.delivered
  batches batch member := by
    have sound := placed.batches batch member
    exact ⟨sound.attached, sound.delivered, sound.carried, sound.target⟩
  queued := placed.queued
  completed := by
    intro given member
    rcases List.mem_append.mp member with old | new
    · exact placed.completed given old
    · rw [List.mem_singleton.mp new]
      exact delivered
  ended := placed.ended

/-- A forwarding task goes on with its batch. -/
theorem restage (placed : Placed history ledger) (distinct : ledger.ids.Nodup) {batch : Batch}
    (member : batch ∈ ledger.batches) {stage : Stage} (started : batch.stage ≠ .counted)
    (goes : stage ≠ .counted)
    (carried : ∀ outcome, stage.outcome? = some outcome → batch.delivered = some outcome)
    (target : ∀ worker, stage.target? = some worker → worker < ledger.workers.length) :
    Placed history (ledger.setStage batch.id stage) where
  attached := placed.attached
  delivered := placed.delivered
  batches := by
    have sound := placed.batches batch member
    apply Ledger.forall_changed distinct member (fun other known _ => placed.batches other known)
    refine ⟨?_, sound.delivered, carried, target⟩
    exact ⟨fun same => absurd same goes, fun missing => absurd (sound.attached.mpr missing) started⟩
  queued := placed.queued
  completed := placed.completed
  ended := placed.ended

/-- A forwarding task goes on with the outcome that it has in its hands. -/
theorem carry (placed : Placed history ledger) (distinct : ledger.ids.Nodup) {batch : Batch}
    (member : batch ∈ ledger.batches) {stage : Stage} {outcome : Outcome}
    (has : batch.stage.outcome? = some outcome) (keeps : stage.outcome? = some outcome)
    (target : ∀ worker, stage.target? = some worker → worker < ledger.workers.length) :
    Placed history (ledger.setStage batch.id stage) := by
  refine placed.restage distinct member ?_ ?_ ?_ target
  · intro counted
    rw [counted] at has
    cases has
  · rintro rfl
    cases keeps
  · intro other carried
    rw [keeps] at carried
    cases carried
    exact (placed.batches batch member).carried outcome has

theorem carried_mem (placed : Placed history ledger) {batch : Batch} (member : batch ∈ ledger.batches)
    {outcome : Outcome} (has : batch.stage.outcome? = some outcome) :
    (batch.id, outcome) ∈ history.delivered := by
  have sound := placed.batches batch member
  exact (sound.delivered outcome).mp (sound.carried outcome has)

theorem count (placed : Placed history ledger) (accounted : Accounted history ledger)
    (delivered : Option Outcome) :
    Placed (history.note ledger (.count delivered)) (ledger.count delivered) := by
  have number := accounted.next
  refine ⟨?_, ?_, ?_, ?_, ?_, placed.ended⟩
  · intro id member
    exact Nat.lt_succ_of_lt (placed.attached id member)
  · intro given member
    rcases List.mem_append.mp member with old | new
    · exact Nat.lt_succ_of_lt (placed.delivered given old)
    · cases delivered with
      | none => simp at new
      | some outcome =>
        simp only [Option.map_some, Option.toList_some, List.mem_singleton] at new
        subst new
        simp only [Ledger.count]
        omega
  · intro batch member
    rcases List.mem_append.mp member with old | new
    · have sound := placed.batches batch old
      have bound : batch.id < ledger.next := accounted.lt_next (List.mem_append_left _
        (List.mem_append_left _ (List.mem_map_of_mem old)))
      refine ⟨sound.attached, ?_, sound.carried, sound.target⟩
      intro outcome
      rw [sound.delivered outcome]
      simp only [History.note, List.mem_append]
      refine ⟨Or.inl, fun either => either.resolve_right ?_⟩
      intro new
      cases delivered with
      | none => simp at new
      | some other =>
        simp only [Option.map_some, Option.toList_some, List.mem_singleton, Prod.mk.injEq] at new
        omega
    · rw [List.mem_singleton.mp new]
      refine ⟨?_, ?_, ?_, ?_⟩
      · refine ⟨fun _ known => ?_, fun _ => rfl⟩
        exact Nat.lt_irrefl _ (placed.attached _ known)
      · intro outcome
        have unknown : (ledger.next, outcome) ∉ history.delivered := fun known =>
          Nat.lt_irrefl _ (placed.delivered _ known)
        cases delivered <;> simp [History.note, unknown, ← number, eq_comm]
      · simp [Stage.outcome?]
      · simp [Stage.target?]
  · intro given member
    exact List.mem_append_left _ (placed.queued given member)
  · intro given member
    exact List.mem_append_left _ (placed.completed given member)

theorem attach (placed : Placed history ledger) (distinct : ledger.ids.Nodup) {batch : Batch}
    (member : batch ∈ ledger.batches) (bound : batch.id < ledger.next) (target : Option Nat) :
    Placed { history with attached := history.attached ++ [batch.id] }
      (ledger.setStage batch.id (.waiting target)) where
  attached := by
    intro id known
    rcases List.mem_append.mp known with old | new
    · exact placed.attached id old
    · rw [List.mem_singleton.mp new]
      exact bound
  delivered := placed.delivered
  batches := by
    have sound := placed.batches batch member
    refine Ledger.forall_changed distinct member (fun other known different => ?_) ?_
    · have otherSound := placed.batches other known
      refine ⟨?_, otherSound.delivered, otherSound.carried, otherSound.target⟩
      simp [otherSound.attached, different]
    · refine ⟨?_, sound.delivered, ?_, ?_⟩
      · simp
      · simp [Stage.outcome?]
      · simp [Stage.target?]
  queued := placed.queued
  completed := placed.completed
  ended := placed.ended

theorem deliver (placed : Placed history ledger) (distinct : ledger.ids.Nodup) {batch : Batch}
    (member : batch ∈ ledger.batches) (bound : batch.id < ledger.next)
    (undelivered : batch.delivered = none) (outcome : Outcome) :
    Placed { history with delivered := history.delivered ++ [(batch.id, outcome)] }
      (ledger.setDelivered batch.id outcome) where
  attached := placed.attached
  delivered := by
    intro given known
    rcases List.mem_append.mp known with old | new
    · exact placed.delivered given old
    · rw [List.mem_singleton.mp new]
      exact bound
  batches := by
    have sound := placed.batches batch member
    have unknown : ∀ other, (batch.id, other) ∉ history.delivered := by
      intro other known
      rw [← sound.delivered, undelivered] at known
      cases known
    refine Ledger.forall_changed distinct member (fun other known different => ?_) ?_
    · have otherSound := placed.batches other known
      refine ⟨otherSound.attached, ?_, otherSound.carried, otherSound.target⟩
      simp [otherSound.delivered, different]
    · refine ⟨sound.attached, ?_, ?_, sound.target⟩
      · simp [unknown, eq_comm]
      · intro other carried
        have early := sound.carried other carried
        rw [undelivered] at early
        cases early
  queued given known := List.mem_append_left _ (placed.queued given known)
  completed given known := List.mem_append_left _ (placed.completed given known)
  ended := placed.ended

/-- Every step passes outcomes on as they are. -/
theorem step (placed : Placed history ledger) (accounted : Accounted history ledger) {later : Ledger}
    {given : Step} (taken : ledger.step? given = some later) :
    Placed (history.note ledger given) later := by
  have distinct := accounted.distinct
  have bound : ∀ batch ∈ ledger.batches, batch.id < ledger.next := fun batch member =>
    accounted.lt_next (List.mem_append_left _ (List.mem_append_left _ (List.mem_map_of_mem member)))
  have inQueue : ∀ {worker state}, ledger.worker? worker = some state →
      ∀ entry ∈ state.queue, entry ∈ history.delivered := fun found entry member =>
    placed.queued entry (Ledger.mem_queued.mpr ⟨_, Ledger.mem_workers found, member⟩)
  cases Ledger.transition_of_step? taken with
  | count delivered => exact placed.count accounted delivered
  | attach member => exact placed.attach distinct member (bound _ member) _
  | deliver outcome member undelivered =>
    exact placed.deliver distinct member (bound _ member) undelivered outcome
  | receive member stage delivered =>
    simp only [History.note, Ledger.callbacks, List.append_nil]
    refine placed.restage distinct member (by simp [stage]) (by simp) ?_ (by simp [Stage.target?])
    intro outcome held
    cases held
    exact delivered
  | upgrade member stage accepts =>
    simp only [History.note, Ledger.callbacks, List.append_nil]
    apply placed.carry distinct member (by rw [stage]; rfl) rfl
    intro target sending
    cases sending
    exact placed.lt_of_isOpen accepts
  | closed member stage =>
    simp only [History.note, Ledger.callbacks, List.append_nil]
    exact placed.carry distinct member (by rw [stage]; rfl) rfl (by simp [Stage.target?])
  | @send batch worker state outcome member stage found takes =>
    simp only [History.note, Ledger.callbacks, List.append_nil]
    refine (placed.removeBatch batch.id).setWorker ?_ (fun ended => absurd ended takes)
    intro entry queued
    rcases List.mem_append.mp queued with old | new
    · exact inQueue found entry old
    · rw [List.mem_singleton.mp new]
      exact placed.carried_mem member (by rw [stage]; rfl)
  | refused member stage =>
    simp only [History.note, Ledger.callbacks, List.append_nil]
    exact placed.carry distinct member (by rw [stage]; rfl) rfl (by simp [Stage.target?])
  | @settleInline batch outcome member stage =>
    simp only [History.note, Ledger.callbacks_settleInline distinct member stage]
    exact (placed.removeBatch batch.id).complete (placed.carried_mem member (by rw [stage]; rfl))
  | start =>
    simp only [History.note, Ledger.callbacks, List.append_nil]
    exact placed.startWorker
  | release found =>
    simp only [History.note, Ledger.callbacks, List.append_nil]
    have held := inQueue found
    have ended := placed.ended _ (Ledger.mem_workers found)
    exact placed.setWorker held ended
  | @take worker id state outcome rest found takes queue =>
    simp only [History.note, Ledger.callbacks_take found queue]
    have held := inQueue found
    rw [queue] at held
    have settled : Placed history (ledger.setWorker worker { state with queue := rest }) :=
      placed.setWorker (fun entry member => held entry (List.mem_cons_of_mem _ member))
        (fun ended => absurd ended takes)
    exact settled.complete (held _ List.mem_cons_self)
  | @finish worker state found queue =>
    simp only [History.note, Ledger.callbacks, List.append_nil]
    have held := inQueue found
    have ended : Placed history (ledger.setWorker worker { state with task := .ended }) :=
      placed.setWorker held (fun _ => queue)
    exact ended.of_same rfl rfl rfl
  | cancel found =>
    simp only [History.note, Ledger.callbacks, List.append_nil]
    have held := inQueue found
    exact placed.setWorker held (by simp)
  | @abort worker state found =>
    simp only [History.note, Ledger.callbacks, List.append_nil]
    have ended : Placed history (ledger.setWorker worker { state with task := .ended, queue := [] }) :=
      placed.setWorker (by simp) (fun _ => rfl)
    exact ended.of_same rfl rfl rfl

end Placed

theorem Run.placed {history : History} {ledger : Ledger} (run : Run history ledger) :
    Placed history ledger := by
  induction run with
  | start => exact .start
  | step before taken ih => exact ih.step before.accounted taken
  | report entries _ ih => exact ih.of_same rfl rfl rfl

end CheckpointSink.Settlement
