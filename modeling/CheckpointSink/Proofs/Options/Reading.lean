import CheckpointSink.Options.Settings
import Mathlib.Data.List.Nodup

/-!
What the settings depend on: the values that the properties give to the options, and nothing else.
The access key is the one value that reaches the settings without a word about it in any fault.
-/

namespace CheckpointSink

theorem OptionKey.names_nodup : (OptionKey.all.map OptionKey.name).Nodup := by
  decide +kernel

theorem OptionKey.name_injective {first second : OptionKey} (same : first.name = second.name) :
    first = second :=
  List.inj_on_of_nodup_map names_nodup (mem_all first) (mem_all second) same

namespace Properties

variable {first second : Properties} {name : String}

theorem present?_congr (same : first.get? name = second.get? name) :
    first.present? name = second.present? name := by
  unfold present?
  rw [same]

theorem text_congr (same : first.get? name = second.get? name) :
    first.text name = second.text name := by
  unfold text
  rw [present?_congr same]

theorem naturalOr_congr (same : first.get? name = second.get? name) (bits standard : Nat) :
    first.naturalOr bits name standard = second.naturalOr bits name standard := by
  unfold naturalOr integerOr
  rw [present?_congr same]

theorem flagOr_congr (same : first.get? name = second.get? name) (standard : Bool) :
    first.flagOr name standard = second.flagOr name standard := by
  unfold flagOr
  rw [present?_congr same]

theorem text_of_present {value : String} (given : first.present? name = some value) :
    first.text name = .ok value := by
  unfold text
  rw [given]

/-- With one pair of each name, the pair that counts is the one that is there. -/
theorem get?_eq_some_iff {properties : Properties}
    (distinct : (properties.entries.map Prod.fst).Nodup) (name value : String) :
    properties.get? name = some value ↔ (name, value) ∈ properties.entries := by
  obtain ⟨entries⟩ := properties
  rw [get?, List.lookup_eq_some_iff]
  constructor
  · rintro ⟨earlier, later, rfl, -⟩
    exact List.mem_append_right _ List.mem_cons_self
  · intro isThere
    obtain ⟨earlier, later, rfl⟩ := List.append_of_mem isThere
    refine ⟨earlier, later, rfl, fun pair isEarlier => ?_⟩
    rw [List.map_append, List.map_cons, List.nodup_middle, List.nodup_cons] at distinct
    rw [bne_iff_ne]
    intro same
    have taken : name ∈ earlier.map Prod.fst := List.mem_map.mpr ⟨pair, isEarlier, same.symm⟩
    exact distinct.1 (List.mem_append_left _ taken)

end Properties

/-- The same destination, with another access key. -/
def Destination.rekey (key : String) (destination : Destination) : Destination :=
  { destination with accessKey := key }

namespace Settings

open Properties

/-- The same settings, with another access key. -/
def rekey (key : String) (settings : Settings) : Settings :=
  { settings with destination := settings.destination.rekey key }

variable {first second : Properties}

/-- The options of the client do not include the access key. -/
theorem readClient_congr
    (same : ∀ option : OptionKey, option ≠ .accessKey →
      first.get? option.name = second.get? option.name) (standard : ClientSettings) :
    readClient first standard = readClient second standard := by
  have natural (option : OptionKey) (other : option ≠ .accessKey) (bits number : Nat) :=
    naturalOr_congr (same option other) bits number
  unfold readClient
  rw [natural .lingerMs nofun, natural .maxRetries nofun, natural .baseRetryBackoffMs nofun,
    natural .maxRetryBackoffMs nofun, natural .maxBlockMs nofun, natural .threadCount nofun,
    natural .buckets nofun, natural .totalSizeInBytes nofun,
    flagOr_congr (same .adjustShardHash nofun)]

theorem readDestination_congr
    (same : ∀ option : OptionKey, first.get? option.name = second.get? option.name) :
    readDestination first = readDestination second := by
  unfold readDestination
  rw [text_congr (same .project), text_congr (same .endpoint), text_congr (same .accessKeyId),
    text_congr (same .accessKey)]

/-- Only the values of the options count. -/
theorem ofProperties_congr
    (same : ∀ option : OptionKey, first.get? option.name = second.get? option.name)
    (machineThreads : Nat) :
    ofProperties machineThreads first = ofProperties machineThreads second := by
  unfold ofProperties
  rw [readDestination_congr same, text_congr (same .logstore),
    readClient_congr (fun option _ => same option),
    naturalOr_congr (same .flushTimeoutMs)]

theorem readDestination_rekey {former key : String}
    (same : ∀ option : OptionKey, option ≠ .accessKey →
      first.get? option.name = second.get? option.name)
    (before : first.present? OptionKey.accessKey.name = some former)
    (after : second.present? OptionKey.accessKey.name = some key) :
    readDestination second = (readDestination first).map (Destination.rekey key) := by
  unfold readDestination
  rw [text_congr (same .project nofun), text_congr (same .endpoint nofun),
    text_congr (same .accessKeyId nofun), text_of_present before, text_of_present after]
  cases second.text OptionKey.project.name <;> try rfl
  cases second.text OptionKey.endpoint.name <;> try rfl
  cases second.text OptionKey.accessKeyId.name <;> rfl

/-- Another access key, neither of them blank, makes no difference but its own. -/
theorem ofProperties_rekey {former key : String}
    (same : ∀ option : OptionKey, option ≠ .accessKey →
      first.get? option.name = second.get? option.name)
    (before : first.present? OptionKey.accessKey.name = some former)
    (after : second.present? OptionKey.accessKey.name = some key) (machineThreads : Nat) :
    ofProperties machineThreads second = (ofProperties machineThreads first).map (rekey key) := by
  unfold ofProperties
  rw [readDestination_rekey same before after, text_congr (same .logstore nofun),
    readClient_congr same, naturalOr_congr (same .flushTimeoutMs nofun)]
  cases readDestination first with
  | error _ => rfl
  | ok destination =>
    cases second.text OptionKey.logstore.name with
    | error _ => rfl
    | ok logstore =>
      cases readClient second (.standard machineThreads) with
      | error _ => rfl
      | ok client =>
        simp only [Except.map, bind, Except.bind]
        cases checkBackoff client <;> try rfl
        cases checkThreads client <;> try rfl
        cases second.naturalOr 64 OptionKey.flushTimeoutMs.name standardFlushTimeoutMs <;> rfl

end Settings
end CheckpointSink
