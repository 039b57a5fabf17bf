import CheckpointSink.Settlement.Ledger
import Mathlib.Data.List.Nodup

/-!
What each step makes of a ledger, said once: for every step that can be taken, the conditions under
which it is taken and the ledger after it. Batches are in one of three kinds of places, and the
lemmas on the places say how the changes of a ledger move them.
-/

namespace CheckpointSink.Settlement
namespace Ledger

/-- Everything that a step can do, with the conditions under which it does so. -/
inductive Transition (ledger : Ledger) : Step → Ledger → Prop where
  | count (delivered : Option Outcome) : Transition ledger (.count delivered)
      (ledger.count delivered)
  | attach {batch : Batch} {worker : Nat} {state : Worker} (member : batch ∈ ledger.batches)
      (found : ledger.worker? worker = some state) (stage : batch.stage = .counted) :
      Transition ledger (.attach batch.id worker)
        (ledger.setStage batch.id (.waiting (if state.senderHeld then some worker else none)))
  | deliver {batch : Batch} (outcome : Outcome) (member : batch ∈ ledger.batches)
      (undelivered : batch.delivered = none) :
      Transition ledger (.deliver batch.id outcome) (ledger.setDelivered batch.id outcome)
  | receive {batch : Batch} {worker : Option Nat} {outcome : Outcome}
      (member : batch ∈ ledger.batches) (stage : batch.stage = .waiting worker)
      (delivered : batch.delivered = some outcome) :
      Transition ledger (.receive batch.id) (ledger.setStage batch.id (.received outcome worker))
  | upgrade {batch : Batch} {worker : Nat} {outcome : Outcome} (member : batch ∈ ledger.batches)
      (stage : batch.stage = .received outcome (some worker)) (accepts : ledger.isOpen worker) :
      Transition ledger (.upgrade batch.id) (ledger.setStage batch.id (.sending outcome worker))
  | closed {batch : Batch} {worker : Option Nat} {outcome : Outcome}
      (member : batch ∈ ledger.batches) (stage : batch.stage = .received outcome worker) :
      Transition ledger (.upgrade batch.id) (ledger.setStage batch.id (.inline outcome))
  | send {batch : Batch} {worker : Nat} {state : Worker} {outcome : Outcome}
      (member : batch ∈ ledger.batches) (stage : batch.stage = .sending outcome worker)
      (found : ledger.worker? worker = some state) (takes : state.task ≠ .ended) :
      Transition ledger (.send batch.id) ((ledger.removeBatch batch.id).setWorker worker
        { state with queue := state.queue ++ [(batch.id, outcome)] })
  | refused {batch : Batch} {worker : Nat} {outcome : Outcome} (member : batch ∈ ledger.batches)
      (stage : batch.stage = .sending outcome worker) :
      Transition ledger (.send batch.id) (ledger.setStage batch.id (.inline outcome))
  | settleInline {batch : Batch} {outcome : Outcome} (member : batch ∈ ledger.batches)
      (stage : batch.stage = .inline outcome) :
      Transition ledger (.settleInline batch.id)
        ((ledger.removeBatch batch.id).complete outcome)
  | start : Transition ledger .start ledger.start
  | release {worker : Nat} {state : Worker} (found : ledger.worker? worker = some state) :
      Transition ledger (.release worker) (ledger.setWorker worker { state with senderHeld := false })
  | take {worker batch : Nat} {state : Worker} {outcome : Outcome} {rest : List (Nat × Outcome)}
      (found : ledger.worker? worker = some state) (takes : state.task ≠ .ended)
      (queue : state.queue = (batch, outcome) :: rest) :
      Transition ledger (.take worker)
        ((ledger.setWorker worker { state with queue := rest }).complete outcome)
  | finish {worker : Nat} {state : Worker} (found : ledger.worker? worker = some state)
      (queue : state.queue = []) (runs : state.task ≠ .ended) (closed : ¬ledger.isOpen worker) :
      Transition ledger (.finish worker)
        ((ledger.setWorker worker { state with task := .ended }).enter .workerDrained)
  | cancel {worker : Nat} {state : Worker} (found : ledger.worker? worker = some state)
      (runs : state.task = .running) :
      Transition ledger (.cancel worker) (ledger.setWorker worker { state with task := .cancelling })
  | abort {worker : Nat} {state : Worker} (found : ledger.worker? worker = some state)
      (cancelled : state.task = .cancelling) :
      Transition ledger (.abort worker)
        { ledger.setWorker worker { state with task := .ended, queue := [] } with
          discarded := ledger.discarded ++ state.queue.map (·.1) }

theorem batch?_some {ledger : Ledger} {id : Nat} {batch : Batch}
    (found : ledger.batch? id = some batch) : batch ∈ ledger.batches ∧ batch.id = id :=
  ⟨List.mem_of_find?_eq_some found, by simpa using List.find?_some found⟩

/-! Each step that is taken is one of these transitions. -/

section

variable {ledger later : Ledger} {id worker : Nat}

theorem transition_of_attach (taken : ledger.attach id worker = some later) :
    Transition ledger (.attach id worker) later := by
  unfold attach at taken
  split at taken
  · rename_i batch state found known
    obtain ⟨member, rfl⟩ := batch?_some found
    split at taken
    · rename_i counted
      cases taken
      exact .attach member known counted
    · cases taken
  · cases taken

theorem transition_of_deliver {outcome : Outcome} (taken : ledger.deliver id outcome = some later) :
    Transition ledger (.deliver id outcome) later := by
  unfold deliver at taken
  split at taken
  · rename_i batch found
    obtain ⟨member, rfl⟩ := batch?_some found
    split at taken
    · rename_i undelivered
      cases taken
      exact .deliver outcome member (Option.isNone_iff_eq_none.mp undelivered)
    · cases taken
  · cases taken

theorem transition_of_receive (taken : ledger.receive id = some later) :
    Transition ledger (.receive id) later := by
  unfold receive at taken
  split at taken
  · rename_i batch found
    obtain ⟨member, rfl⟩ := batch?_some found
    split at taken
    · rename_i waiting delivered
      cases taken
      exact .receive member waiting delivered
    · cases taken
  · cases taken

theorem transition_of_upgrade (taken : ledger.upgrade id = some later) :
    Transition ledger (.upgrade id) later := by
  unfold upgrade at taken
  split at taken
  · rename_i batch found
    obtain ⟨member, rfl⟩ := batch?_some found
    split at taken
    · rename_i received
      split at taken
      · rename_i accepts
        cases taken
        exact .upgrade member received accepts
      · cases taken
        exact .closed member received
    · rename_i received
      cases taken
      exact .closed member received
    · cases taken
  · cases taken

theorem transition_of_send (taken : ledger.send id = some later) :
    Transition ledger (.send id) later := by
  unfold send at taken
  split at taken
  · rename_i batch found
    obtain ⟨member, rfl⟩ := batch?_some found
    split at taken
    · rename_i sending
      split at taken
      · rename_i known
        split at taken
        · cases taken
          exact .refused member sending
        · rename_i takes
          cases taken
          exact .send member sending known takes
      · cases taken
    · cases taken
  · cases taken

theorem transition_of_settleInline (taken : ledger.settleInline id = some later) :
    Transition ledger (.settleInline id) later := by
  unfold settleInline at taken
  split at taken
  · rename_i batch found
    obtain ⟨member, rfl⟩ := batch?_some found
    split at taken
    · rename_i settles
      cases taken
      exact .settleInline member settles
    · cases taken
  · cases taken

theorem transition_of_release (taken : ledger.release worker = some later) :
    Transition ledger (.release worker) later := by
  unfold release at taken
  split at taken
  · rename_i found
    cases taken
    exact .release found
  · cases taken

theorem transition_of_take (taken : ledger.take worker = some later) :
    Transition ledger (.take worker) later := by
  unfold take at taken
  split at taken
  · rename_i found
    split at taken
    · cases taken
    · cases taken
    · rename_i queue takes
      cases taken
      exact .take found takes queue
  · cases taken

theorem transition_of_finish (taken : ledger.finish worker = some later) :
    Transition ledger (.finish worker) later := by
  unfold finish at taken
  split at taken
  · rename_i found
    split at taken
    · rename_i idle
      obtain ⟨runs, empty, closed⟩ := idle
      cases taken
      exact .finish found empty runs closed
    · cases taken
  · cases taken

theorem transition_of_cancel (taken : ledger.cancel worker = some later) :
    Transition ledger (.cancel worker) later := by
  unfold cancel at taken
  split at taken
  · rename_i found
    split at taken
    · rename_i runs
      cases taken
      exact .cancel found runs
    · cases taken
  · cases taken

theorem transition_of_abort (taken : ledger.abort worker = some later) :
    Transition ledger (.abort worker) later := by
  unfold abort at taken
  split at taken
  · rename_i found
    split at taken
    · rename_i cancelled
      cases taken
      exact .abort found cancelled
    · cases taken
  · cases taken

theorem transition_of_step? {step : Step} (taken : ledger.step? step = some later) :
    Transition ledger step later := by
  cases step with
  | count delivered =>
    cases taken
    exact .count delivered
  | attach => exact transition_of_attach taken
  | deliver => exact transition_of_deliver taken
  | receive => exact transition_of_receive taken
  | upgrade => exact transition_of_upgrade taken
  | send => exact transition_of_send taken
  | settleInline => exact transition_of_settleInline taken
  | start =>
    cases taken
    exact .start
  | release => exact transition_of_release taken
  | take => exact transition_of_take taken
  | finish => exact transition_of_finish taken
  | cancel => exact transition_of_cancel taken
  | abort => exact transition_of_abort taken

end

/-! The places of batches -/

def ids (ledger : Ledger) : List Nat :=
  ledger.batches.map Batch.id

/-- What waits in the queues of the workers. -/
def queued (ledger : Ledger) : List (Nat × Outcome) :=
  (ledger.workers.map Worker.queue).flatten

/-- The batches that are counted still, wherever they are. -/
def outstanding (ledger : Ledger) : List Nat :=
  ledger.ids ++ ledger.queued.map Prod.fst ++ ledger.discarded

theorem unique_batch {ledger : Ledger} (distinct : ledger.ids.Nodup) {first second : Batch}
    (firstMember : first ∈ ledger.batches) (secondMember : second ∈ ledger.batches)
    (same : first.id = second.id) : first = second :=
  List.inj_on_of_nodup_map distinct firstMember secondMember same

theorem batch?_of_mem {ledger : Ledger} (distinct : ledger.ids.Nodup) {batch : Batch}
    (member : batch ∈ ledger.batches) : ledger.batch? batch.id = some batch := by
  cases found : ledger.batch? batch.id with
  | none => simpa using List.find?_eq_none.mp found batch member
  | some other =>
    obtain ⟨otherMember, same⟩ := batch?_some found
    rw [unique_batch distinct otherMember member same]

theorem restage_id (batch : Batch) (id : Nat) (stage : Stage) :
    (if batch.id = id then { batch with stage } else batch).id = batch.id := by
  split <;> rfl

theorem redeliver_id (batch : Batch) (id : Nat) (delivered : Option Outcome) :
    (if batch.id = id then { batch with delivered } else batch).id = batch.id := by
  split <;> rfl

@[simp] theorem ids_setStage (ledger : Ledger) (id : Nat) (stage : Stage) :
    (ledger.setStage id stage).ids = ledger.ids := by
  simp only [ids, setStage, List.map_map, Function.comp_def, restage_id]

@[simp] theorem ids_setDelivered (ledger : Ledger) (id : Nat) (outcome : Outcome) :
    (ledger.setDelivered id outcome).ids = ledger.ids := by
  simp only [ids, setDelivered, List.map_map, Function.comp_def, redeliver_id]

theorem ids_removeBatch (ledger : Ledger) (id : Nat) :
    (ledger.removeBatch id).ids = ledger.ids.filter (· ≠ id) := by
  simp only [ids, removeBatch, List.filter_map]
  rfl

/-- A batch that leaves the batches is the only one that does. -/
theorem ids_perm_removeBatch {ledger : Ledger} (distinct : ledger.ids.Nodup) {batch : Batch}
    (member : batch ∈ ledger.batches) :
    ledger.ids.Perm (batch.id :: (ledger.removeBatch batch.id).ids) := by
  have erased : (ledger.removeBatch batch.id).ids = ledger.ids.erase batch.id := by
    rw [ids_removeBatch, distinct.erase_eq_filter]
    apply List.filter_congr
    intro id _
    by_cases same : id = batch.id <;> simp [same]
  rw [erased]
  exact List.perm_cons_erase (List.mem_map_of_mem member)

theorem flatten_set_perm {α : Type} {lists : List (List α)} {index : Nat} {old : List α}
    (found : lists[index]? = some old) (new : List α) :
    ((lists.set index new).flatten ++ old).Perm (lists.flatten ++ new) := by
  induction lists generalizing index with
  | nil => simp at found
  | cons head tail ih =>
    cases index with
    | zero =>
      simp only [List.getElem?_cons_zero, Option.some.injEq] at found
      subst found
      simp only [List.set_cons_zero, List.flatten_cons]
      exact List.perm_append_comm.trans (by
        rw [List.append_assoc]
        exact (List.perm_append_comm).append_left head)
    | succ index =>
      simp only [List.getElem?_cons_succ] at found
      simp only [List.set_cons_succ, List.flatten_cons, List.append_assoc]
      exact (ih found).append_left head

/-- Only the queue of the worker that is set changes. -/
theorem queued_setWorker_perm {ledger : Ledger} {worker : Nat} {old : Worker}
    (found : ledger.worker? worker = some old) (new : Worker) :
    ((ledger.setWorker worker new).queued ++ old.queue).Perm (ledger.queued ++ new.queue) := by
  simp only [queued, setWorker, List.map_set]
  apply flatten_set_perm
  rw [List.getElem?_map]
  simp only [worker?] at found
  rw [found]
  rfl

theorem set_same {α : Type} {list : List α} {index : Nat} {value : α}
    (found : list[index]? = some value) : list.set index value = list := by
  obtain ⟨bound, rfl⟩ := List.getElem?_eq_some_iff.mp found
  exact List.set_getElem_self bound

theorem queued_setWorker {ledger : Ledger} {worker : Nat} {old new : Worker}
    (found : ledger.worker? worker = some old) (same : new.queue = old.queue) :
    (ledger.setWorker worker new).queued = ledger.queued := by
  simp only [queued, setWorker, List.map_set, same]
  rw [set_same]
  rw [List.getElem?_map]
  simp only [worker?] at found
  rw [found]
  rfl

theorem outstanding_setStage (ledger : Ledger) (id : Nat) (stage : Stage) :
    (ledger.setStage id stage).outstanding = ledger.outstanding := by
  simp only [outstanding, ids_setStage]
  rfl

theorem outstanding_setDelivered (ledger : Ledger) (id : Nat) (outcome : Outcome) :
    (ledger.setDelivered id outcome).outstanding = ledger.outstanding := by
  simp only [outstanding, ids_setDelivered]
  rfl

theorem outstanding_setWorker {ledger : Ledger} {worker : Nat} {old new : Worker}
    (found : ledger.worker? worker = some old) (same : new.queue = old.queue) :
    (ledger.setWorker worker new).outstanding = ledger.outstanding := by
  simp only [outstanding, queued_setWorker found same]
  rfl

/-- What a worker has in its queue is outstanding, whatever it had in its queue before. -/
theorem outstanding_setWorker_perm {ledger : Ledger} {worker : Nat} {old : Worker}
    (found : ledger.worker? worker = some old) (new : Worker) :
    ((ledger.setWorker worker new).outstanding ++ old.queue.map Prod.fst).Perm
      (ledger.outstanding ++ new.queue.map Prod.fst) := by
  have queued := (queued_setWorker_perm found new).map Prod.fst
  rw [List.perm_iff_count]
  intro other
  have queuedCount := queued.count_eq other
  simp only [outstanding, List.map_append, List.count_append] at queuedCount ⊢
  show List.count other ledger.ids + _ + List.count other ledger.discarded + _ = _
  omega

theorem outstanding_removeBatch_perm {ledger : Ledger} (distinct : ledger.ids.Nodup) {batch : Batch}
    (member : batch ∈ ledger.batches) :
    ledger.outstanding.Perm (batch.id :: (ledger.removeBatch batch.id).outstanding) := by
  simp only [outstanding, List.append_assoc]
  exact (ids_perm_removeBatch distinct member).append_right _

/-- A batch is outstanding while it goes from its forwarding task into a queue. -/
theorem outstanding_send {ledger : Ledger} (distinct : ledger.ids.Nodup) {batch : Batch}
    (member : batch ∈ ledger.batches) {worker : Nat} {state : Worker}
    (found : ledger.worker? worker = some state) (outcome : Outcome) :
    ((ledger.removeBatch batch.id).setWorker worker
      { state with queue := state.queue ++ [(batch.id, outcome)] }).outstanding.Perm
        ledger.outstanding := by
  have left := outstanding_removeBatch_perm distinct member
  have known : (ledger.removeBatch batch.id).worker? worker = some state := found
  have queued := outstanding_setWorker_perm known
    { state with queue := state.queue ++ [(batch.id, outcome)] }
  rw [List.perm_iff_count]
  intro other
  have leftCount := left.count_eq other
  have queuedCount := queued.count_eq other
  simp only [List.map_append, List.count_append, List.count_cons, List.map_cons, List.map_nil,
    List.count_nil] at leftCount queuedCount
  omega

theorem outstanding_take {ledger : Ledger} {worker : Nat} {state : Worker} {id : Nat}
    {outcome : Outcome} {rest : List (Nat × Outcome)} (found : ledger.worker? worker = some state)
    (queue : state.queue = (id, outcome) :: rest) : ledger.outstanding.Perm
      (id :: (ledger.setWorker worker { state with queue := rest }).outstanding) := by
  have queued := outstanding_setWorker_perm found { state with queue := rest }
  rw [List.perm_iff_count]
  intro other
  have queuedCount := queued.count_eq other
  simp only [queue, List.count_append, List.count_cons, List.map_cons] at queuedCount ⊢
  omega

/-- The batches that are lost with a queue are still outstanding. -/
theorem outstanding_abort {ledger : Ledger} {worker : Nat} {state : Worker}
    (found : ledger.worker? worker = some state) :
    List.Perm (outstanding { ledger.setWorker worker { state with task := .ended, queue := [] } with
      discarded := ledger.discarded ++ state.queue.map Prod.fst }) ledger.outstanding := by
  have queued := outstanding_setWorker_perm found { state with task := .ended, queue := [] }
  rw [List.map_nil, List.append_nil] at queued
  refine List.Perm.trans (.of_eq ?_) queued
  simp only [outstanding, List.append_assoc]
  rfl

end Ledger
end CheckpointSink.Settlement
