import CheckpointSink.Record.Request
import CheckpointSink.Proofs.Fields
import Mathlib.Data.List.Forall2

/-!
The items of logs that are made field by field. An item lists each name once, in ascending order,
with the value that was set last. How the fields came onto the log shows in nothing else, and the log
itself can be told from its item.
-/

namespace CheckpointSink

/-- A log as it is made: its time, and the fields that are set on it one after the other. -/
structure LogDraft where
  time : UInt32
  pairs : List (String × String)

theorem Log.ofPairs_concat (time : UInt32) (pairs : List (String × String))
    (last : String × String) :
    ofPairs time (pairs ++ [last]) = (ofPairs time pairs).withField last.1 last.2 := by
  simp only [ofPairs, withField, FieldMap.ofPairs_concat]

namespace LogDraft

variable {draft : LogDraft} {listed : LogItem} {time : UInt32}
  {first second : List (String × String)}

def log (draft : LogDraft) : Log :=
  draft.pairs.foldl (fun log pair => log.withField pair.1 pair.2) (.stamped draft.time)

def item (draft : LogDraft) : LogItem :=
  .ofLog draft.log

/-- An item as it should be, given the fields that are set on its log. -/
structure Normalises (draft : LogDraft) (item : LogItem) : Prop where
  time : item.time = draft.time
  ascending : item.contents.Pairwise (fun earlier later => earlier.1 < later.1)
  names : ∀ name, name ∈ item.contents.map Prod.fst ↔ name ∈ draft.pairs.map Prod.fst
  last : ∀ name value, (name, value) ∈ item.contents ↔ Fields.LastOf draft.pairs name value

theorem log_concat (time : UInt32) (pairs : List (String × String)) (last : String × String) :
    log ⟨time, pairs ++ [last]⟩ = (log ⟨time, pairs⟩).withField last.1 last.2 := by
  rw [log, List.foldl_append]
  rfl

/-- Setting the fields one after the other is the same as setting all of them at once. -/
theorem log_eq_ofPairs (time : UInt32) (pairs : List (String × String)) :
    log ⟨time, pairs⟩ = .ofPairs time pairs := by
  induction pairs using List.reverseRecOn with
  | nil => rfl
  | append_singleton pairs last ih =>
    rw [log_concat, ih, Log.ofPairs_concat]

theorem item_eq (draft : LogDraft) : draft.item = ⟨draft.time, Fields.ofPairs draft.pairs⟩ := by
  rw [item, log_eq_ofPairs]
  rfl

theorem normalises_item (draft : LogDraft) : draft.Normalises draft.item := by
  rw [item_eq]
  exact ⟨rfl, Fields.ascending_ofPairs draft.pairs, fun _ => Fields.mem_names_ofPairs,
    fun _ _ => Fields.mem_ofPairs⟩

/-- These conditions leave no choice: there is one item that meets them. -/
theorem Normalises.eq_item (normalises : draft.Normalises listed) : listed = draft.item := by
  have contents : listed.contents = draft.item.contents := by
    apply Fields.eq_of_ascending normalises.ascending draft.normalises_item.ascending
    intro name value
    rw [normalises.last, draft.normalises_item.last]
  have time : listed.time = draft.item.time :=
    normalises.time.trans draft.normalises_item.time.symm
  cases listed
  cases contents
  cases time
  rfl

theorem Normalises.of_reordered (normalises : Normalises ⟨time, first⟩ listed)
    (reordered : Fields.Reordered first second) : Normalises ⟨time, second⟩ listed := by
  refine ⟨normalises.time, normalises.ascending, fun name => ?_, fun name value => ?_⟩
  · rw [normalises.names, ← Fields.exists_lastOf, ← Fields.exists_lastOf]
    exact exists_congr fun value => reordered.lastOf_iff
  · rw [normalises.last, reordered.lastOf_iff]

theorem item_reordered (reordered : Fields.Reordered first second) :
    item ⟨time, first⟩ = item ⟨time, second⟩ := by
  have normalises : Normalises ⟨time, second⟩ (item ⟨time, first⟩) :=
    (normalises_item ⟨time, first⟩).of_reordered reordered
  exact normalises.eq_item

end LogDraft

theorem LogItem.ofLog_injective : Function.Injective LogItem.ofLog := by
  intro first second same
  obtain ⟨firstTime, firstContents, _⟩ := first
  obtain ⟨secondTime, secondContents, _⟩ := second
  cases same
  rfl

/-- The items of a group stand for its logs one by one: at the time of its log, an item lists exactly
the names that were set there, ascending by their code points and each with the value that was set
last. Fields of different names may be set in any order. Two groups have the same items if and only
if they have the same logs. -/
theorem LogGroup.normalises_items :
    (∀ (drafts : List LogDraft) (topic source : String),
      List.Forall₂ LogDraft.Normalises drafts
        (LogGroup.items ⟨drafts.map LogDraft.log, topic, source⟩)) ∧
    (∀ (time : UInt32) (first second : List (String × String)), Fields.Reordered first second →
      LogDraft.item ⟨time, first⟩ = LogDraft.item ⟨time, second⟩) ∧
    ∀ first second : LogGroup, first.items = second.items ↔ first.logs = second.logs := by
  refine ⟨?_, ?_, ?_⟩
  · intro drafts topic source
    rw [items, List.map_map, List.forall₂_map_right_iff, List.forall₂_same]
    intro draft _
    exact draft.normalises_item
  · intro time first second reordered
    exact LogDraft.item_reordered reordered
  · intro first second
    exact (List.map_injective_iff.mpr LogItem.ofLog_injective).eq_iff

/-- The name `b` is set twice, and `a` in between or afterwards. -/
theorem LogGroup.normalises_items_repeated :
    Fields.Reordered [("b", "2"), ("a", "1"), ("b", "3")] [("b", "2"), ("b", "3"), ("a", "1")] ∧
      LogDraft.item ⟨10, [("b", "2"), ("a", "1"), ("b", "3")]⟩ =
        LogDraft.item ⟨10, [("b", "2"), ("b", "3"), ("a", "1")]⟩ ∧
      List.Forall₂ LogDraft.Normalises
        [⟨10, [("b", "2"), ("a", "1"), ("b", "3")]⟩, ⟨11, []⟩]
        [⟨10, [("a", "1"), ("b", "3")]⟩, ⟨11, []⟩] := by
  have reordered : Fields.Reordered [("b", "2"), ("a", "1"), ("b", "3")]
      [("b", "2"), ("b", "3"), ("a", "1")] := by
    intro name
    by_cases isFirst : "a" = name
    · subst isFirst
      rfl
    · simp [isFirst, List.filter_cons]
  obtain ⟨listed, unordered, -⟩ := LogGroup.normalises_items
  exact ⟨reordered, unordered 10 _ _ reordered, listed _ "topic" "host-1"⟩

end CheckpointSink
