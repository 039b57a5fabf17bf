import CheckpointSink.Fields
import CheckpointSink.Number.Binary64

/-!
JSON values. The members of an object stand in the order of their text and may repeat a name; the
canonical form of a value has them in ascending order, each name with its last value.
-/

namespace CheckpointSink.Json

open CheckpointSink.Number

inductive Value where
  | null
  | bool (value : Bool)
  | integer (value : Int)
  | float (value : Binary64)
  | string (value : String)
  | array (items : List Value)
  | object (members : List (String × Value))
  deriving BEq, Inhabited

namespace Value

mutual

def canonical : Value → Value
  | null => null
  | bool value => bool value
  | integer value => integer value
  | float value => float value
  | string value => string value
  | array items => array (canonicalItems items)
  | object members => object (Fields.ofPairs (canonicalMembers members))

def canonicalItems : List Value → List Value
  | [] => []
  | item :: rest => canonical item :: canonicalItems rest

def canonicalMembers : List (String × Value) → List (String × Value)
  | [] => []
  | (name, value) :: rest => (name, canonical value) :: canonicalMembers rest

end

/-- The value of the first member of the name. -/
def member? (name : String) : Value → Option Value
  | object members => Fields.find? name members
  | _ => none

def string? : Value → Option String
  | string value => some value
  | _ => none

def integer? : Value → Option Int
  | integer value => some value
  | _ => none

def bool? : Value → Option Bool
  | bool value => some value
  | _ => none

def items? : Value → Option (List Value)
  | array items => some items
  | _ => none

def members? : Value → Option (List (String × Value))
  | object members => some members
  | _ => none

end Value
end CheckpointSink.Json
