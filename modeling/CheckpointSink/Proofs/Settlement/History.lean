import CheckpointSink.Proofs.Reporting
import CheckpointSink.Proofs.Settlement.Transition
import Mathlib.Data.List.Perm.Basic
import Mathlib.Data.List.Range

/-!
What has become of batches along a run of a ledger. A history notes for every step the batches that
it counts, attaches, delivers and completes; a run is a history with the ledger that it leads to.
Entries are not part of a run: reports may come in between.
-/

namespace CheckpointSink.Settlement

/-- The callbacks that a step runs. -/
def Ledger.callbacks (ledger : Ledger) : Step → List (Nat × Outcome)
  | .settleInline id =>
    match (ledger.batch? id).map Batch.stage with
    | some (.inline outcome) => [(id, outcome)]
    | _ => []
  | .take worker => (ledger.queue worker).take 1
  | _ => []

theorem Ledger.callbacks_settleInline {ledger : Ledger} (distinct : ledger.ids.Nodup) {batch : Batch}
    (member : batch ∈ ledger.batches) {outcome : Outcome} (stage : batch.stage = .inline outcome) :
    ledger.callbacks (.settleInline batch.id) = [(batch.id, outcome)] := by
  simp only [callbacks, batch?_of_mem distinct member, Option.map_some, stage]

theorem Ledger.callbacks_take {ledger : Ledger} {worker : Nat} {state : Worker}
    {given : Nat × Outcome} {rest : List (Nat × Outcome)}
    (found : ledger.worker? worker = some state) (queue : state.queue = given :: rest) :
    ledger.callbacks (.take worker) = [given] := by
  simp only [callbacks, Ledger.queue, found, queue, List.take_succ_cons, List.take_zero]

structure History where
  /-- Batches are numbered in the order of their counting. -/
  counted : Nat
  attached : List Nat
  /-- The outcomes that resolvers gave, or gave up. -/
  delivered : List (Nat × Outcome)
  completed : List (Nat × Outcome)

namespace History

def empty : History := ⟨0, [], [], []⟩

def note (history : History) (ledger : Ledger) : Step → History
  | .count delivered =>
    { history with
      counted := history.counted + 1
      delivered := history.delivered ++ (delivered.map (history.counted, ·)).toList }
  | .attach id _ => { history with attached := history.attached ++ [id] }
  | .deliver id outcome => { history with delivered := history.delivered ++ [(id, outcome)] }
  | step => { history with completed := history.completed ++ ledger.callbacks step }

/-- The batches whose callback has run, once for every time that it ran. -/
def settled (history : History) : List Nat :=
  history.completed.map Prod.fst

/-- The counted batches whose callback has not run. -/
def unsettled (history : History) : List Nat :=
  (List.range history.counted).filter (· ∉ history.settled)

/-- One step more, if it can be taken. -/
def take (state : History × Ledger) (step : Step) : History × Ledger :=
  match state.2.step? step with
  | some later => (state.1.note state.2 step, later)
  | none => state

/-- The history of some steps, with the ledger after them. -/
def after (steps : List Step) : History × Ledger :=
  steps.foldl take (empty, .empty)

end History

/-- A ledger that some steps lead to, with their history. -/
inductive Run : History → Ledger → Prop where
  | start : Run .empty .empty
  | step {history : History} {ledger later : Ledger} {step : Step} :
    Run history ledger → ledger.step? step = some later → Run (history.note ledger step) later
  | report {history : History} {ledger : Ledger} (entries : List Entry) :
    Run history ledger → Run history { ledger with entries }

theorem Run.take {history : History} {ledger : Ledger} (run : Run history ledger) (step : Step) :
    Run (History.take (history, ledger) step).1 (History.take (history, ledger) step).2 := by
  unfold History.take
  split
  · exact run.step ‹_›
  · exact run

theorem Run.takeAll {history : History} {ledger : Ledger} (run : Run history ledger)
    (steps : List Step) :
    Run (steps.foldl History.take (history, ledger)).1
      (steps.foldl History.take (history, ledger)).2 := by
  induction steps generalizing history ledger with
  | nil => exact run
  | cons step rest ih => exact ih (run.take step)

/-- Steps that can all be taken, one after the other, lead to a reachable ledger. -/
theorem reachable_iff {steps : List Step} {ledger : Ledger} :
    Reachable steps ledger ↔ steps.foldlM Ledger.step? Ledger.empty = some ledger := by
  constructor
  · intro reachable
    induction reachable with
    | start => rfl
    | next _ taken ih => simp [List.foldlM_append, ih, taken]
  · induction steps using List.reverseRecOn generalizing ledger with
    | nil =>
      intro same
      cases same
      exact .start
    | append_singleton steps step ih =>
      intro taken
      simp only [List.foldlM_append, List.foldlM_cons, List.foldlM_nil, Option.bind_eq_bind,
        Option.bind_eq_some_iff] at taken
      obtain ⟨before, reached, later, taken, same⟩ := taken
      cases same
      exact (ih reached).next taken

/-- The steps of a reachable ledger have it as their outcome. -/
theorem Reachable.after_eq {steps : List Step} {ledger : Ledger}
    (reachable : Reachable steps ledger) : (History.after steps).2 = ledger := by
  induction reachable with
  | start => rfl
  | next _ taken ih =>
    rw [History.after, List.foldl_append]
    show (History.take (History.after _) _).2 = _
    simp only [History.take, ih, taken]

theorem Reachable.run {steps : List Step} {ledger : Ledger} (reachable : Reachable steps ledger) :
    Run (History.after steps).1 ledger := by
  have run := Run.start.takeAll steps
  change Run (History.after steps).1 (History.after steps).2 at run
  rwa [reachable.after_eq] at run

/-! What is counted -/

/-- The count of a ledger is right, and every batch is in one place. -/
structure Accounted (history : History) (ledger : Ledger) : Prop where
  next : ledger.next = history.counted
  balance : ledger.pending + history.completed.length = ledger.next
  places : (ledger.outstanding ++ history.settled).Perm (List.range ledger.next)

namespace Accounted

variable {history : History} {ledger : Ledger}

theorem nodup (accounted : Accounted history ledger) :
    (ledger.outstanding ++ history.settled).Nodup :=
  accounted.places.nodup_iff.mpr List.nodup_range

theorem distinct (accounted : Accounted history ledger) : ledger.ids.Nodup :=
  (((List.nodup_append.mp accounted.nodup).1.of_append_left).of_append_left)

theorem pending_eq (accounted : Accounted history ledger) :
    ledger.pending = ledger.outstanding.length := by
  have lengths := accounted.places.length_eq
  have balance := accounted.balance
  simp only [List.length_append, History.settled, List.length_map, List.length_range] at lengths
  omega

theorem lt_next (accounted : Accounted history ledger) {id : Nat}
    (member : id ∈ ledger.outstanding) : id < ledger.next :=
  List.mem_range.mp (accounted.places.mem_iff.mp (List.mem_append_left _ member))

theorem start : Accounted .empty .empty :=
  ⟨rfl, rfl, by simp [Ledger.outstanding, Ledger.ids, Ledger.queued, Ledger.empty, History.settled,
    History.empty]⟩

/-- Steps that move batches from place to place. -/
theorem move (accounted : Accounted history ledger) {later : Ledger}
    (next : later.next = ledger.next) (pending : later.pending = ledger.pending)
    (places : later.outstanding.Perm ledger.outstanding) : Accounted history later :=
  ⟨next.trans accounted.next, by rw [pending, next, accounted.balance],
    by rw [next]; exact (places.append_right _).trans accounted.places⟩

theorem relabel (accounted : Accounted history ledger) {other : History}
    (counted : other.counted = history.counted) (completed : other.completed = history.completed) :
    Accounted other ledger := by
  refine ⟨by rw [counted, accounted.next], by rw [completed, accounted.balance], ?_⟩
  simp only [History.settled, completed]
  exact accounted.places

theorem restage (accounted : Accounted history ledger) (id : Nat) (stage : Stage) :
    Accounted history (ledger.setStage id stage) :=
  accounted.move rfl rfl (.of_eq (Ledger.outstanding_setStage ledger id stage))

theorem redeliver (accounted : Accounted history ledger) (id : Nat) (outcome : Outcome) :
    Accounted history (ledger.setDelivered id outcome) :=
  accounted.move rfl rfl (.of_eq (Ledger.outstanding_setDelivered ledger id outcome))

/-- Steps that run a callback, which finds its batch counted. -/
theorem complete (accounted : Accounted history ledger) {later : Ledger} {id : Nat}
    {outcome : Outcome} (next : later.next = ledger.next)
    (pending : later.pending = (decrement ledger.pending).1)
    (places : ledger.outstanding.Perm (id :: later.outstanding)) :
    Accounted { history with completed := history.completed ++ [(id, outcome)] } later := by
  have counted : 0 < ledger.pending := by
    have length := places.length_eq
    rw [List.length_cons] at length
    rw [accounted.pending_eq]
    omega
  rw [decrement_fst (Int.lt_trans (by decide) counted)] at pending
  refine ⟨next.trans accounted.next, ?_, ?_⟩
  · have balance := accounted.balance
    simp only [List.length_append, List.length_singleton]
    omega
  · rw [next]
    refine List.Perm.trans ?_ accounted.places
    rw [List.perm_iff_count]
    intro other
    have same := places.count_eq other
    simp only [History.settled, List.map_append, List.count_append, List.count_cons, List.map_cons,
      List.map_nil, List.count_nil] at same ⊢
    omega

end Accounted

theorem Ledger.pending_complete (ledger : Ledger) (outcome : Outcome) :
    (ledger.complete outcome).pending = (decrement ledger.pending).1 :=
  settle_fst ledger.pending outcome

namespace Accounted

variable {history : History} {ledger : Ledger}

theorem count (accounted : Accounted history ledger) (delivered : Option Outcome) :
    Accounted (history.note ledger (.count delivered)) (ledger.count delivered) := by
  refine ⟨?_, ?_, ?_⟩
  · simp only [Ledger.count, History.note, accounted.next]
  · have balance := accounted.balance
    simp only [Ledger.count, History.note]
    omega
  · show ((ledger.count delivered).outstanding ++ history.settled).Perm (List.range (ledger.next + 1))
    rw [List.range_succ]
    refine List.Perm.trans ?_ (accounted.places.append_right [ledger.next])
    rw [List.perm_iff_count]
    intro other
    simp only [Ledger.outstanding, Ledger.ids, Ledger.count, Ledger.queued, List.map_append,
      List.count_append, List.map_cons, List.map_nil]
    omega

/-- Every step keeps the count right and every batch in one place. -/
theorem step (accounted : Accounted history ledger) {later : Ledger} {given : Step}
    (taken : ledger.step? given = some later) : Accounted (history.note ledger given) later := by
  have distinct := accounted.distinct
  cases Ledger.transition_of_step? taken with
  | count delivered => exact accounted.count delivered
  | attach => exact (accounted.restage _ _).relabel rfl rfl
  | deliver outcome => exact (accounted.redeliver _ outcome).relabel rfl rfl
  | receive | upgrade | closed | refused =>
    simp only [History.note, Ledger.callbacks, List.append_nil]
    exact accounted.restage _ _
  | @send batch worker state outcome member stage found takes =>
    simp only [History.note, Ledger.callbacks, List.append_nil]
    exact accounted.move rfl rfl (Ledger.outstanding_send distinct member found outcome)
  | @settleInline batch outcome member stage =>
    simp only [History.note, Ledger.callbacks_settleInline distinct member stage]
    exact accounted.complete rfl (Ledger.pending_complete _ _)
      (Ledger.outstanding_removeBatch_perm distinct member)
  | start =>
    simp only [History.note, Ledger.callbacks, List.append_nil]
    refine accounted.move rfl rfl (.of_eq ?_)
    simp [Ledger.outstanding, Ledger.ids, Ledger.queued, Ledger.start, Worker.fresh]
  | release found | cancel found =>
    simp only [History.note, Ledger.callbacks, List.append_nil]
    exact accounted.move rfl rfl (.of_eq (Ledger.outstanding_setWorker found rfl))
  | @finish worker state found =>
    simp only [History.note, Ledger.callbacks, List.append_nil]
    have moved : (ledger.setWorker worker { state with task := .ended }).outstanding =
        ledger.outstanding := Ledger.outstanding_setWorker found rfl
    exact accounted.move rfl rfl (.of_eq moved)
  | @take worker id state outcome rest found takes queue =>
    simp only [History.note, Ledger.callbacks_take found queue]
    exact accounted.complete rfl (Ledger.pending_complete _ _) (Ledger.outstanding_take found queue)
  | @abort worker state found =>
    simp only [History.note, Ledger.callbacks, List.append_nil]
    exact accounted.move rfl rfl (Ledger.outstanding_abort found)

end Accounted

theorem Run.accounted {history : History} {ledger : Ledger} (run : Run history ledger) :
    Accounted history ledger := by
  induction run with
  | start => exact .start
  | step _ taken ih => exact ih.step taken
  | report entries _ ih => exact ⟨ih.next, ih.balance, ih.places⟩

end CheckpointSink.Settlement
