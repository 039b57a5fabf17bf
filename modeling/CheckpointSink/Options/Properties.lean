import CheckpointSink.Number.Decimal
import CheckpointSink.Number.Integer
import CheckpointSink.Options.Key
import CheckpointSink.Text.Blank

/-!
Named options as text. A value counts without the blanks around it, and one that is nothing but
blanks counts as absent.
-/

namespace CheckpointSink

open CheckpointSink.Number CheckpointSink.Text

inductive OptionError where
  | missing (name : String)
  | invalid (name value reason : String)
  deriving DecidableEq

def OptionError.message : OptionError → String
  | missing name => "missing required option `" ++ name ++ "`"
  | invalid name value reason =>
    "invalid value `" ++ value ++ "` for option `" ++ name ++ "`: " ++ reason

/-- Pairs of a name and a value; the first pair of a name counts. -/
structure Properties where
  entries : List (String × String)
  deriving DecidableEq

namespace Properties

def get? (properties : Properties) (name : String) : Option String :=
  properties.entries.lookup name

/-- The value without the blanks around it, if anything is left of it. -/
def present? (properties : Properties) (name : String) : Option String :=
  match properties.get? name with
  | none => none
  | some value => if (trimmed value).isEmpty then none else some (trimmed value)

def text (properties : Properties) (name : String) : Except OptionError String :=
  match properties.present? name with
  | none => .error (.missing name)
  | some value => .ok value

def integerOr (properties : Properties) (width : Width) (name : String) (standard : Int) :
    Except OptionError Int :=
  match properties.present? name with
  | none => .ok standard
  | some value =>
    match readInteger width value.toList with
    | .ok number => .ok number
    | .error fault => .error (.invalid name value fault.message)

def naturalOr (properties : Properties) (bits : Nat) (name : String) (standard : Nat) :
    Except OptionError Nat :=
  (properties.integerOr (.unsigned bits) name standard).map Int.toNat

/-- Only the two words themselves are read. -/
def exactFlagOr (properties : Properties) (name : String) (standard : Bool) :
    Except OptionError Bool :=
  match properties.present? name with
  | none => .ok standard
  | some value =>
    if value = "true" then .ok true
    else if value = "false" then .ok false
    else .error (.invalid name value "provided string was not `true` or `false`")

/-- The two words are read in either case of the Latin letters. -/
def flagOr (properties : Properties) (name : String) (standard : Bool) :
    Except OptionError Bool :=
  match properties.present? name with
  | none => .ok standard
  | some value =>
    if value.map Char.toLower = "true" then .ok true
    else if value.map Char.toLower = "false" then .ok false
    else .error (.invalid name value "expected `true` or `false`")

end Properties
end CheckpointSink
