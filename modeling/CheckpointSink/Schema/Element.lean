import CheckpointSink.Json.Value
import CheckpointSink.Number.Decimal
import CheckpointSink.Number.FloatText
import CheckpointSink.Number.Integer

/-!
Stream elements and their form as JSON. Not every element has one: an integer may need more bits
than JSON numbers keep, and a table may have keys that are no strings.
-/

namespace CheckpointSink

open CheckpointSink.Json CheckpointSink.Number

inductive Element where
  | value (value : Value)
  | number (reading : FloatReading)
  | natural (value : Nat)
  /-- The keys are pairs of values. -/
  | pairTable (rows : List ((Value × Value) × Value))
  | integerTable (rows : List (Int × Option FloatReading))

inductive ElementError where
  | numberOutOfRange
  | keyNotString
  deriving DecidableEq

def ElementError.message : ElementError → String
  | numberOutOfRange => "number out of range"
  | keyNotString => "key must be a string"

namespace Element

/-- Only finite numbers have a JSON form. -/
def ofFloat : FloatReading → Value
  | .finite decimal => .float decimal
  | .infinite _ => .null
  | .undefined => .null

def ofOptionalFloat : Option FloatReading → Value
  | none => .null
  | some reading => ofFloat reading

def json : Element → Except ElementError Value
  | .value json => .ok json.canonical
  | .number reading => .ok (ofFloat reading)
  | .natural n =>
    if (n : Int) ≤ (Width.unsigned 64).greatest then .ok (.integer n)
    else .error .numberOutOfRange
  | .pairTable rows => if rows.isEmpty then .ok (.object []) else .error .keyNotString
  | .integerTable rows =>
    .ok (.object (Fields.ofPairs (rows.map fun row => (intText row.1, ofOptionalFloat row.2))))

end Element
end CheckpointSink
