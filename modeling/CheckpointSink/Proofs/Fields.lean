import CheckpointSink.Fields
import Mathlib.Data.List.Induction

/-!
What is found in fields that were written one after the other: under each name the last value that
was written there, and nothing else. Fields that are written in the order of their names stay as they
are, and the order of the writes to different names does not matter.
-/

namespace CheckpointSink

namespace Fields

variable {α β : Type} {name : String} {value : α} {pairs entries : List (String × α)}

/-- This is the value of the last pair of the name. -/
def LastOf (pairs : List (String × α)) (name : String) (value : α) : Prop :=
  ∃ earlier later, pairs = earlier ++ (name, value) :: later ∧ ∀ pair ∈ later, pair.1 ≠ name

theorem not_lastOf_nil : ¬LastOf ([] : List (String × α)) name value := by
  rintro ⟨earlier, later, same, -⟩
  simp at same

/-- One pair more takes the place of all earlier ones of its name. -/
theorem lastOf_concat (pairs : List (String × α)) (last : String × α) :
    LastOf (pairs ++ [last]) name value ↔
      if name = last.1 then last.2 = value else LastOf pairs name value := by
  constructor
  · rintro ⟨earlier, later, same, others⟩
    -- The pair that counts is the new one, or the new one is among those after it.
    rcases List.eq_nil_or_concat later with rfl | ⟨before, pair, rfl⟩
    · obtain ⟨-, atEnd⟩ := List.append_inj' same rfl
      cases atEnd
      rw [if_pos rfl]
    · rw [List.concat_eq_append, ← List.cons_append, ← List.append_assoc] at same
      obtain ⟨rfl, atEnd⟩ := List.append_inj' same rfl
      cases atEnd
      rw [if_neg fun isLast => others last (by simp) isLast.symm]
      exact ⟨earlier, before, rfl, fun pair member => others pair (by simp [member])⟩
  · intro found
    split at found
    · rename_i isLast
      exact ⟨pairs, [], by rw [isLast, ← found], nofun⟩
    · rename_i isOther
      obtain ⟨earlier, later, rfl, others⟩ := found
      refine ⟨earlier, later ++ [last], by simp, fun pair member => ?_⟩
      rcases List.mem_append.mp member with before | isLast
      · exact others pair before
      · rw [List.mem_singleton.mp isLast]
        exact fun same => isOther same.symm

/-- A name has a last value as soon as it occurs. -/
theorem exists_lastOf : (∃ value, LastOf pairs name value) ↔ name ∈ pairs.map Prod.fst := by
  induction pairs using List.reverseRecOn with
  | nil => simp [not_lastOf_nil]
  | append_singleton pairs last ih =>
    simp only [lastOf_concat, List.map_append, List.mem_append, List.map_cons, List.map_nil,
      List.mem_singleton]
    by_cases isLast : name = last.1
    · simp [isLast]
    · simp [isLast, ih]

/-- The last value of a name is decided by the pairs of that name alone. -/
theorem lastOf_iff_getLast? : LastOf pairs name value ↔
    (pairs.filter fun pair => pair.1 = name).getLast? = some (name, value) := by
  induction pairs using List.reverseRecOn with
  | nil => simp [not_lastOf_nil]
  | append_singleton pairs last ih =>
    rw [lastOf_concat, List.filter_append]
    by_cases isLast : name = last.1
    · simp [isLast, Prod.ext_iff]
    · simp [isLast, Ne.symm isLast, ih]

theorem ofPairs_concat (pairs : List (String × α)) (last : String × α) :
    ofPairs (pairs ++ [last]) = insert last.1 last.2 (ofPairs pairs) := by
  rw [ofPairs, List.foldl_append]
  rfl

theorem find?_ofPairs : find? name (ofPairs pairs) = some value ↔ LastOf pairs name value := by
  induction pairs using List.reverseRecOn with
  | nil =>
    refine ⟨fun found => ?_, fun last => absurd last not_lastOf_nil⟩
    cases found
  | append_singleton pairs last ih =>
    rw [ofPairs_concat, find?_insert, lastOf_concat]
    split
    · exact Option.some_inj
    · exact ih

/-- In ascending fields each name is there once, so that the first value is the only one. -/
theorem find?_eq_some_iff (ascending : Ascending entries) :
    find? name entries = some value ↔ (name, value) ∈ entries := by
  induction entries with
  | nil => simp [find?]
  | cons head rest ih =>
    have above : ∀ entry ∈ rest, head.1 < entry.1 := fun _ => List.rel_of_pairwise_cons ascending
    rw [find?, List.mem_cons]
    split
    · rename_i isHead
      have notLater : (name, value) ∉ rest := by
        intro member
        have less : head.1 < name := above (name, value) member
        rw [isHead] at less
        exact String.lt_irrefl _ less
      constructor
      · intro found
        exact .inl (Prod.ext isHead (Option.some.inj found).symm)
      · rintro (same | member)
        · rw [← same]
        · exact absurd member notLater
    · rename_i isOther
      rw [ih (List.Pairwise.of_cons ascending)]
      constructor
      · exact .inr
      · rintro (same | member)
        · exact absurd (congrArg Prod.fst same) isOther
        · exact member

theorem unique_of_ascending {other : α} (ascending : Ascending entries)
    (first : (name, value) ∈ entries) (second : (name, other) ∈ entries) : value = other := by
  rw [← find?_eq_some_iff ascending] at first second
  exact Option.some.inj (first.symm.trans second)

theorem nodup_of_ascending (ascending : Ascending entries) : entries.Nodup := by
  apply List.Pairwise.imp _ ascending
  intro earlier later less same
  exact String.ne_of_lt less (congrArg Prod.fst same)

/-- Ascending fields with the same entries are the same. -/
theorem eq_of_ascending {first second : List (String × α)} (isFirst : Ascending first)
    (isSecond : Ascending second)
    (same : ∀ name value, (name, value) ∈ first ↔ (name, value) ∈ second) : first = second := by
  have perm : first.Perm second :=
    (List.perm_ext_iff_of_nodup (nodup_of_ascending isFirst) (nodup_of_ascending isSecond)).mpr
      fun entry => same entry.1 entry.2
  exact perm.eq_of_pairwise
    (fun _ _ _ _ less greater => absurd greater (String.lt_asymm less)) isFirst isSecond

/-- What was written last under a name is all there is under it. -/
theorem mem_ofPairs : (name, value) ∈ ofPairs pairs ↔ LastOf pairs name value := by
  rw [← find?_eq_some_iff (ascending_ofPairs pairs), find?_ofPairs]

theorem mem_names_ofPairs : name ∈ (ofPairs pairs).map Prod.fst ↔ name ∈ pairs.map Prod.fst := by
  have occurs : name ∈ (ofPairs pairs).map Prod.fst ↔ ∃ value, (name, value) ∈ ofPairs pairs := by
    simp
  rw [occurs, ← exists_lastOf]
  exact exists_congr fun _ => mem_ofPairs

theorem insert_last (above : ∀ entry ∈ entries, entry.1 < name) (value : α) :
    insert name value entries = entries ++ [(name, value)] := by
  induction entries with
  | nil => rfl
  | cons head rest ih =>
    have less : head.1 < name := above head List.mem_cons_self
    rw [insert, if_neg (String.lt_asymm less), if_neg (String.ne_of_lt less).symm,
      ih fun entry member => above entry (List.mem_cons_of_mem _ member)]
    rfl

/-- Fields that are written in the order of their names stay as they are. -/
theorem ofPairs_of_ascending (ascending : Ascending entries) : ofPairs entries = entries := by
  induction entries using List.reverseRecOn with
  | nil => rfl
  | append_singleton before last ih =>
    obtain ⟨earlier, -, above⟩ := List.pairwise_append.mp ascending
    rw [ofPairs_concat, ih earlier]
    exact insert_last (fun entry member => above entry member last List.mem_cons_self) last.2

/-- Of every name there are the same pairs in the same order. Pairs of different names may have
changed places. -/
def Reordered (first second : List (String × α)) : Prop :=
  ∀ name, (first.filter fun pair => pair.1 = name) = second.filter fun pair => pair.1 = name

theorem Reordered.lastOf_iff {first second : List (String × α)}
    (reordered : Reordered first second) :
    LastOf first name value ↔ LastOf second name value := by
  rw [lastOf_iff_getLast?, lastOf_iff_getLast?, reordered name]

end Fields

theorem FieldMap.ofPairs_concat {α : Type} (pairs : List (String × α)) (last : String × α) :
    ofPairs (pairs ++ [last]) = (ofPairs pairs).insert last.1 last.2 := by
  simp only [ofPairs, insert, Fields.ofPairs_concat]

theorem FieldMap.ofPairs_entries {α : Type} (fields : FieldMap α) :
    ofPairs fields.entries = fields := by
  obtain ⟨entries, ascending⟩ := fields
  simp only [ofPairs, Fields.ofPairs_of_ascending ascending]

end CheckpointSink
