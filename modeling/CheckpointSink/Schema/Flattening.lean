import CheckpointSink.Json.Writer
import CheckpointSink.Record.Log
import CheckpointSink.Schema.Element

/-!
One log for each element. The members of an object become the fields of the log: strings as they
are, nulls not at all, other values as compact JSON. Every other value is the single field `content`.
-/

namespace CheckpointSink

open CheckpointSink.Json CheckpointSink.Number

structure JsonSchema where
  topic : String
  source : String
  /-- The member that holds the time of the log. -/
  timeField : Option String
  deriving DecidableEq

namespace JsonSchema

def contentField : String := "content"

/-- The text of a field with this value, if it makes a field. -/
def fieldText : Value → Option String
  | .null => none
  | .string value => some value
  | value => some value.compact

def timeOf : Value → Option UInt32
  | .integer value =>
    if 0 ≤ value ∧ value ≤ (Width.unsigned 32).greatest then some (UInt32.ofNat value.toNat)
    else none
  | _ => none

/-- The time field with its time, if the object has it as an integer of 32 bits. -/
def lifted (schema : JsonSchema) (members : List (String × Value)) : Option (String × UInt32) := do
  let name ← schema.timeField
  let value ← Fields.find? name members
  let time ← timeOf value
  return (name, time)

def fields (members : List (String × Value)) : List (String × String) :=
  members.filterMap fun entry => (fieldText entry.2).map fun text => (entry.1, text)

def log (schema : JsonSchema) (clock : UInt32) : Value → Log
  | .object members =>
    match schema.lifted members with
    | some (name, time) => .ofPairs time (fields (Fields.erase name members))
    | none => .ofPairs clock (fields members)
  | value => .ofPairs clock (fields [(contentField, value)])

def group (schema : JsonSchema) (clock : UInt32) (value : Value) : LogGroup :=
  ⟨[schema.log clock value], schema.topic, schema.source⟩

def serialize (schema : JsonSchema) (clock : UInt32) (element : Element) :
    Except ElementError LogGroup :=
  element.json.map (schema.group clock)

end JsonSchema
end CheckpointSink
