import CheckpointSink.Options.Environment
import CheckpointSink.Proofs.Options.Reading

/-!
An environment and a property map that give the options the same values configure the same sink.
The table of options and the reading of settings are kept apart in the program: what ties them is
that every option read is in the table, and that no two options share a variable.
-/

namespace CheckpointSink

namespace Environment

theorem variableName_eq (name : String) :
    variableName name = String.ofList (name.toList.map variableChar) := by
  rw [← String.toList_inj]
  simp [variableName]

example : variableName OptionKey.flushTimeoutMs.name = "LOG_PRODUCER_FLUSH_TIMEOUT_MS" := by
  rw [variableName_eq]
  decide +kernel

theorem asked_nodup : asked.Nodup := by
  unfold asked
  simp only [variableName_eq]
  decide +kernel

/-- No two options are read from one variable. -/
theorem variableName_injective {first second : OptionKey}
    (same : variableName first.name = variableName second.name) : first = second :=
  List.inj_on_of_nodup_map asked_nodup (OptionKey.mem_all first) (OptionKey.mem_all second) same

variable (lookup : String → Option String)

theorem mem_entries (name value : String) :
    (name, value) ∈ (properties lookup).entries ↔
      ∃ key : OptionKey, key.name = name ∧ lookup (variableName key.name) = some value := by
  simp only [properties, List.mem_filterMap, OptionKey.mem_all, true_and]
  refine exists_congr fun key => ?_
  cases lookup (variableName key.name) <;> simp

theorem names_nodup : ((properties lookup).entries.map Prod.fst).Nodup := by
  unfold properties
  rw [List.map_filterMap]
  apply List.Nodup.filterMap
  · intro first second name ofFirst ofSecond
    simp only [Option.map_map, Option.mem_def, Option.map_eq_some_iff, Function.comp_apply]
      at ofFirst ofSecond
    obtain ⟨_, -, rfl⟩ := ofFirst
    obtain ⟨_, -, same⟩ := ofSecond
    exact OptionKey.name_injective same.symm
  · exact List.Nodup.of_map _ OptionKey.names_nodup

theorem get?_eq_some (name value : String) :
    (properties lookup).get? name = some value ↔
      ∃ key : OptionKey, key.name = name ∧ lookup (variableName key.name) = some value := by
  rw [← mem_entries]
  exact Properties.get?_eq_some_iff (names_nodup lookup) name value

theorem get?_name (key : OptionKey) :
    (properties lookup).get? key.name = lookup (variableName key.name) := by
  apply Option.ext
  intro value
  rw [get?_eq_some]
  constructor
  · rintro ⟨other, same, isSet⟩
    rwa [← OptionKey.name_injective same]
  · exact fun isSet => ⟨key, rfl, isSet⟩

/-- The properties of an environment are the options whose variable is set, one pair each, with the
value of that variable, which is no other option's; and settings read of them are those read of any
properties, whatever else these name, that give every option the value of its variable. -/
theorem configures_alike :
    (∀ name value : String, (properties lookup).get? name = some value ↔
      ∃ key : OptionKey, key.name = name ∧ lookup (variableName key.name) = some value) ∧
    ((properties lookup).entries.map Prod.fst).Nodup ∧
    (∀ first second : OptionKey,
      variableName first.name = variableName second.name → first = second) ∧
    ∀ (machineThreads : Nat) (given : Properties),
      (∀ key : OptionKey, lookup (variableName key.name) = given.get? key.name) →
        Settings.ofProperties machineThreads (properties lookup) =
          Settings.ofProperties machineThreads given := by
  refine ⟨get?_eq_some lookup, names_nodup lookup, fun _ _ => variableName_injective, ?_⟩
  intro machineThreads given same
  apply Settings.ofProperties_congr
  intro key
  rw [get?_name, same]

/-- The variables of a whole configuration, next to one that is no option's. -/
def demoVariable (name : String) : Option String :=
  [("HOME", "/root"), ("LOG_PROJECT", " demo "), ("LOG_LOGSTORE", "store"),
    ("LOG_ENDPOINT", "local"), ("LOG_ACCESS_KEY_ID", "id"), ("LOG_ACCESS_KEY", "key"),
    ("LOG_PRODUCER_FLUSH_TIMEOUT_MS", "250")].lookup name

/-- The same values by option, next to a name that is no option's. -/
def demoProperties : Properties :=
  ⟨[("log.producer.flush-timeout-ms", "250"), ("log.access-key", "key"),
    ("log.access-key-id", "id"), ("log.endpoint", "local"), ("log.logstore", "store"),
    ("log.project", " demo "), ("log.color", "blue")]⟩

theorem configures_alike_demo :
    (∀ key : OptionKey, demoVariable (variableName key.name) = demoProperties.get? key.name) ∧
    Settings.ofProperties 8 (properties demoVariable) = Settings.ofProperties 8 demoProperties ∧
    Settings.ofProperties 8 demoProperties =
      .ok ⟨⟨"demo", "local", "id", "key"⟩, "store", .standard 8, 250, 100, 3000⟩ := by
  have same (key : OptionKey) :
      demoVariable (variableName key.name) = demoProperties.get? key.name := by
    rw [variableName_eq]
    cases key <;> decide +kernel
  exact ⟨same, (configures_alike demoVariable).2.2.2 8 demoProperties same, by decide +kernel⟩

end Environment
end CheckpointSink
