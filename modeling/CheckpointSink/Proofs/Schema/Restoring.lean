import CheckpointSink.Proofs.Json.Reading
import CheckpointSink.Proofs.Schema.Flattening

/-!
An object restored from its log. The text of a field that shows no string is JSON, and the value is
read back from it. A string is shown as it is and may look like JSON, so that it has to be known
besides which fields show strings. All of the object is restored then but its nulls and the member
that became the time of the log.
-/

namespace CheckpointSink

open CheckpointSink.Json

namespace Json.Value

variable {members : List (String × Value)}

def isNull : Value → Bool
  | null => true
  | _ => false

/-- An integer from 0 to 2 ^ 32 - 1. -/
def isTime : Value → Bool
  | integer value => 0 ≤ value && value < UInt32.size
  | _ => false

theorem isTime_iff {value : Value} :
    value.isTime = true ↔ ∃ time : UInt32, value = integer time.toNat := by
  cases value with
  | integer number =>
    simp only [isTime, Bool.and_eq_true, decide_eq_true_eq, integer.injEq]
    constructor
    · rintro ⟨least, greatest⟩
      refine ⟨UInt32.ofNat number.toNat, ?_⟩
      rw [UInt32.toNat_ofNat_of_lt' (by omega)]
      omega
    · rintro ⟨time, rfl⟩
      have bound := time.toNat_lt_size
      omega
  | _ => simp [isTime]

theorem isExact_of_mem (exact : membersExact members = true) :
    ∀ member ∈ members, member.2.isExact = true := by
  induction members with
  | nil => nofun
  | cons first rest ih =>
    obtain ⟨exactFirst, exactRest⟩ : first.2.isExact = true ∧ membersExact rest = true := by
      simpa [membersExact] using exact
    intro member isMember
    rcases List.mem_cons.mp isMember with rfl | later
    · exact exactFirst
    · exact ih exactRest member later

end Json.Value

/-- The members of an object that is the form of an element stand in ascending order. -/
theorem Element.ascending_of_json {element : Element} {members : List (String × Value)}
    (isObject : element.json = .ok (.object members)) : Fields.Ascending members := by
  cases element with
  | value json =>
    cases json <;> cases isObject
    exact Fields.ascending_ofPairs _
  | number reading => cases reading <;> cases isObject
  | natural number =>
    rw [json] at isObject
    split at isObject <;> cases isObject
  | pairTable rows =>
    rw [json] at isObject
    split at isObject <;> cases isObject
    exact List.Pairwise.nil
  | integerTable rows =>
    cases isObject
    exact Fields.ascending_ofPairs _

namespace JsonSchema

variable {schema : JsonSchema} {members : List (String × Value)} {name text : String}
  {value : Value} {strings : List String}

/-- The member of the time field, with a value that is a time. -/
def lifts (schema : JsonSchema) (member : String × Value) : Bool :=
  schema.timeField = some member.1 && member.2.isTime

/-- What a log shows of an object. -/
def shown (schema : JsonSchema) (members : List (String × Value)) : List (String × Value) :=
  (members.filter fun member => !schema.lifts member).filter fun member => !member.2.isNull

/-- The member that a field shows, given the names of the strings. -/
def restoreField (strings : List String) (field : String × String) : Option (String × Value) :=
  if field.1 ∈ strings then some (field.1, .string field.2)
  else (Value.ofText? field.2).map (field.1, ·)

/-- The members that the fields of a log show, given the names of the strings. -/
def restore (strings : List String) (fields : List (String × String)) :
    Option (List (String × Value)) :=
  fields.mapM (restoreField strings)

theorem restoreField_shown (exact : value.isExact = true)
    (marked : name ∈ strings ↔ ∃ string, value = .string string)
    (shown : fieldText value = some text) :
    restoreField strings (name, text) = some (name, value) := by
  rcases fieldText_eq_some.mp shown with rfl | ⟨-, notString, rfl⟩
  · exact if_pos (marked.mpr ⟨text, rfl⟩)
  · have unmarked : name ∉ strings := by
      intro mark
      obtain ⟨string, isString⟩ := marked.mp mark
      exact notString string isString
    rw [restoreField, if_neg unmarked, ofText?_compact exact]
    rfl

theorem fieldText_eq_none : fieldText value = none ↔ value.isNull = true := by
  cases value <;> simp [fieldText, Value.isNull]

/-- Fields give back the members that they were made of, but for the nulls. -/
theorem restore_fields (exact : ∀ member ∈ members, member.2.isExact = true)
    (marked : ∀ member ∈ members, member.1 ∈ strings ↔ ∃ string, member.2 = .string string) :
    restore strings (fields members) = some (members.filter fun member => !member.2.isNull) := by
  induction members with
  | nil => rfl
  | cons member rest ih =>
    have later := ih (fun other isLater => exact other (List.mem_cons_of_mem _ isLater))
      (fun other isLater => marked other (List.mem_cons_of_mem _ isLater))
    cases text? : fieldText member.2 with
    | none =>
      have isNull := fieldText_eq_none.mp text?
      simpa [fields, text?, isNull] using later
    | some text =>
      have notNull : member.2.isNull = false := by
        rw [← Bool.not_eq_true, ← fieldText_eq_none, text?]
        simp
      have first := restoreField_shown (exact member List.mem_cons_self)
        (marked member List.mem_cons_self) text?
      have oneMore : fields (member :: rest) = (member.1, text) :: fields rest := by
        simp [fields, text?]
      rw [restore] at later ⊢
      rw [oneMore, List.mapM_cons, first, later]
      simp [notNull]

/-! Logs -/

theorem lifts_iff {member : String × Value} : schema.lifts member = true ↔
    schema.timeField = some member.1 ∧ ∃ time : UInt32, member.2 = .integer time.toNat := by
  rw [lifts, Bool.and_eq_true, decide_eq_true_eq, Value.isTime_iff]

theorem erase_of_lifted {time : UInt32} (ascending : Fields.Ascending members)
    (isLifted : schema.lifted members = some (name, time)) :
    Fields.erase name members = members.filter fun member => !schema.lifts member := by
  obtain ⟨isField, isMember⟩ := (lifted_iff_mem ascending).mp isLifted
  apply List.filter_congr
  rintro ⟨other, value⟩ isOther
  rw [Bool.eq_iff_iff, decide_eq_true_eq, Bool.not_eq_true', ← Bool.not_eq_true, lifts_iff]
  apply not_congr
  constructor
  · rintro rfl
    exact ⟨isField, time, Fields.unique_of_ascending ascending isOther isMember⟩
  · rintro ⟨isAlso, -⟩
    exact Option.some.inj (isAlso.symm.trans isField)

theorem filter_of_not_lifted (ascending : Fields.Ascending members)
    (notLifted : schema.lifted members = none) :
    (members.filter fun member => !schema.lifts member) = members := by
  rw [List.filter_eq_self]
  rintro ⟨name, value⟩ isMember
  rw [Bool.not_eq_true', ← Bool.not_eq_true, lifts_iff]
  rintro ⟨isField, time, rfl⟩
  have isLifted := (lifted_iff_mem ascending).mpr ⟨isField, isMember⟩
  rw [notLifted] at isLifted
  cases isLifted

theorem entries_log (ascending : Fields.Ascending members) (clock : UInt32) :
    (schema.log clock (.object members)).contents.entries =
      fields (members.filter fun member => !schema.lifts member) := by
  rw [log]
  cases isLifted : schema.lifted members with
  | none =>
    rw [filter_of_not_lifted ascending isLifted]
    exact entries_ofPairs_fields ascending clock
  | some field =>
    rw [← erase_of_lifted ascending isLifted]
    exact entries_ofPairs_fields (Fields.ascending_erase _ ascending) field.2

/-- Of an object whose numbers are integers from -2 ^ 63 to 2 ^ 64 - 1, a field shows the one value
that the object has under its name: a string as it is, and any other value so that its text is read
as that value. Given the names of the strings, all members are restored from the log but the nulls
and the member that is its time. -/
theorem restores_shown {element : Element} (schema : JsonSchema) (clock : UInt32)
    (isObject : element.json = .ok (.object members))
    (exact : (Value.object members).isExact = true) :
    ∃ log : Log, schema.serialize clock element = .ok ⟨[log], schema.topic, schema.source⟩ ∧
      (∀ name text, (name, text) ∈ log.contents.entries →
        ∃ value, (∀ other, (name, other) ∈ members ↔ other = value) ∧
          (value = .string text ∨
            (∀ string, value ≠ .string string) ∧ Value.ofText? text = some value)) ∧
      ∀ strings : List String,
        (∀ name, name ∈ strings ↔ ∃ string, (name, .string string) ∈ members) →
          restore strings log.contents.entries = some (schema.shown members) := by
  have ascending := Element.ascending_of_json isObject
  have exactEach := Value.isExact_of_mem exact
  have unique {name : String} {value other : Value} (isMember : (name, value) ∈ members) :
      (name, other) ∈ members ↔ other = value := by
    constructor
    · exact fun isOther => Fields.unique_of_ascending ascending isOther isMember
    · rintro rfl
      exact isMember
  refine ⟨schema.log clock (.object members), by rw [serialize, isObject]; rfl, ?_, ?_⟩
  · intro name text isField
    rw [entries_log ascending, mem_fields] at isField
    obtain ⟨value, isShown, text?⟩ := isField
    have isMember := (List.mem_filter.mp isShown).1
    refine ⟨value, fun other => unique isMember, ?_⟩
    rcases fieldText_eq_some.mp text? with isString | ⟨-, notString, rfl⟩
    · exact .inl isString
    · exact .inr ⟨notString, ofText?_compact (exactEach _ isMember)⟩
  · intro strings marks
    rw [entries_log ascending]
    apply restore_fields
    · exact fun member isShown => exactEach member (List.mem_filter.mp isShown).1
    · rintro ⟨name, value⟩ isShown
      simp only [marks, unique (List.mem_filter.mp isShown).1]
      exact exists_congr fun _ => eq_comm

theorem restores_shown_nested : ∃ log : Log,
    serialize ⟨"app", "host", some "at"⟩ 7 (.value (.object
        [("d", .object [("z", .integer (-9223372036854775808)),
            ("\"\n", .array [.null, .bool true])]),
          ("c", .string "[5]"), ("at", .integer 5), ("b", .null),
          ("a", .integer 18446744073709551615)])) = .ok ⟨[log], "app", "host"⟩ ∧
      restore ["c"] log.contents.entries =
        some [("a", .integer 18446744073709551615), ("c", .string "[5]"),
          ("d", .object [("\"\n", .array [.null, .bool true]),
            ("z", .integer (-9223372036854775808))])] := by
  obtain ⟨log, made, -, restored⟩ := restores_shown ⟨"app", "host", some "at"⟩ 7
    (show Element.json (.value (.object
        [("d", .object [("z", .integer (-9223372036854775808)),
            ("\"\n", .array [.null, .bool true])]),
          ("c", .string "[5]"), ("at", .integer 5), ("b", .null),
          ("a", .integer 18446744073709551615)])) =
      .ok (.object
        [("a", .integer 18446744073709551615), ("at", .integer 5), ("b", .null),
          ("c", .string "[5]"), ("d", .object [("\"\n", .array [.null, .bool true]),
            ("z", .integer (-9223372036854775808))])]) from rfl)
    (by decide)
  exact ⟨log, made, (restored ["c"] (by simp)).trans rfl⟩

end JsonSchema
end CheckpointSink
