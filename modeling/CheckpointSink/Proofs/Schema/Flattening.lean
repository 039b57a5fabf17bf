import CheckpointSink.Proofs.Fields
import CheckpointSink.Schema.Flattening

/-!
What becomes of the members of an object in its log. A field is there for each name whose last value
is no null, with the text of that value; only the time field goes elsewhere, and only if the value is
an integer of 32 bits.
-/

namespace CheckpointSink

open CheckpointSink.Json

namespace Json.Value

variable {value : Value}

end Json.Value

namespace JsonSchema

variable {schema : JsonSchema} {members : List (String × Value)} {name text : String}
  {value : Value} {time : UInt32}

theorem fieldText_eq_some : fieldText value = some text ↔ value = .string text ∨
    value ≠ .null ∧ (∀ other, value ≠ .string other) ∧ value.compact = text := by
  cases value <;> simp [fieldText]

theorem timeOf_eq_some : timeOf value = some time ↔ value = .integer time.toNat := by
  have greatest : (Number.Width.unsigned 32).greatest = (UInt32.size : Int) - 1 := by decide
  have bound := time.toNat_lt_size
  cases value with
  | integer number =>
    rw [timeOf, greatest, Value.integer.injEq]
    constructor
    · intro read
      split at read
      · rename_i inRange
        rw [← Option.some.inj read, UInt32.toNat_ofNat_of_lt' (by omega)]
        omega
      · cases read
    · rintro rfl
      rw [if_pos (by omega), Int.toNat_natCast, UInt32.ofNat_toNat]
  | _ => simp [timeOf]

/-! Members -/

theorem mem_fields : (name, text) ∈ fields members ↔
    ∃ value, (name, value) ∈ members ∧ fieldText value = some text := by
  simp only [fields, List.mem_filterMap, Option.map_eq_some_iff, Prod.exists, Prod.mk.injEq]
  constructor
  · rintro ⟨_, value, member, _, shown, rfl, rfl⟩
    exact ⟨value, member, shown⟩
  · rintro ⟨value, member, shown⟩
    exact ⟨name, value, member, text, shown, rfl, rfl⟩

theorem ascending_fields (ascending : Fields.Ascending members) :
    Fields.Ascending (fields members) := by
  apply List.Pairwise.filterMap _ _ ascending
  intro earlier later less first isFirst second isSecond
  obtain ⟨_, -, rfl⟩ := Option.map_eq_some_iff.mp isFirst
  obtain ⟨_, -, rfl⟩ := Option.map_eq_some_iff.mp isSecond
  exact less

theorem entries_ofPairs_fields (ascending : Fields.Ascending members) (time : UInt32) :
    (Log.ofPairs time (fields members)).contents.entries = fields members :=
  Fields.ofPairs_of_ascending (ascending_fields ascending)

/-- The members of an object as the schema gets them: in ascending order, and of each name the last. -/
def ordered (members : List (String × Value)) : List (String × Value) :=
  Fields.ofPairs (Value.canonicalMembers members)

theorem lifted_iff_mem (ascending : Fields.Ascending members) :
    schema.lifted members = some (name, time) ↔
      schema.timeField = some name ∧ (name, .integer time.toNat) ∈ members := by
  simp only [lifted, Option.bind_eq_bind, Option.bind_eq_some_iff, Option.pure_def,
    Option.some.injEq, Prod.mk.injEq, Fields.find?_eq_some_iff ascending, timeOf_eq_some]
  constructor
  · rintro ⟨_, isField, _, member, _, rfl, rfl, rfl⟩
    exact ⟨isField, member⟩
  · rintro ⟨isField, member⟩
    exact ⟨name, isField, _, member, time, rfl, rfl, rfl⟩

/-- The last value under the name of the time field is too great for a time, so it stays a field. -/
example : serialize ⟨"app", "host", some "at"⟩ 7 (.value (.object
      [("at", .integer 5), ("b", .null), ("a", .array [.bool true, .null]), ("b", .integer (-1)),
        ("at", .integer 4294967296), ("c", .string "x\"y"), ("a b", .null)])) =
    .ok ⟨[.ofPairs 7 [("a", "[true,null]"), ("at", "4294967296"), ("b", "-1"), ("c", "x\"y")]],
      "app", "host"⟩ := by
  decide +kernel

end JsonSchema
end CheckpointSink
