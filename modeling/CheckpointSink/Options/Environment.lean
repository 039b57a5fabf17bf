import CheckpointSink.Options.Properties

/-!
Options taken from environment variables. The variable of an option has its name in capitals, with
underscores for the points and hyphens.
-/

namespace CheckpointSink

namespace Environment

def variableChar (c : Char) : Char :=
  if c = '.' || c = '-' then '_' else c.toUpper

def variableName (name : String) : String :=
  name.map variableChar

/-- The options whose variable is set, each with the value of its variable. -/
def properties (lookup : String → Option String) : Properties :=
  ⟨OptionKey.all.filterMap fun key =>
    (lookup (variableName key.name)).map fun value => (key.name, value)⟩

/-- The variables that are asked for, in that order. -/
def asked : List String :=
  OptionKey.all.map fun key => variableName key.name

end Environment
end CheckpointSink
