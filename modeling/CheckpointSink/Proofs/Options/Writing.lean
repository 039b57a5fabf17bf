import CheckpointSink.Proofs.Options.Validity

/-!
Settings written down as properties: each text as it is, each number in decimal digits, the truth
value as a word. Whatever settings were read from properties are read again from what they are
written as, since their texts have no blanks at the ends and their numbers are in range.
-/

namespace CheckpointSink

open CheckpointSink.Number CheckpointSink.Text

/-! Texts that are read as they stand -/

namespace Text

/-- There is something in the text, and no blank at either end. -/
structure Bare (text : String) : Prop where
  nonempty : text ≠ ""
  trims : Trims text.toList text.toList

theorem trims_self {text : List Char} (first : ∀ c, text.head? = some c → isBlank c = false)
    (last : ∀ c, text.getLast? = some c → isBlank c = false) : Trims text text :=
  ⟨⟨[], [], (List.append_nil text).symm, nofun, nofun⟩, first, last⟩

theorem Bare.trimmed_eq {text : String} (bare : Bare text) : trimmed text = text := by
  rw [trimmed, bare.trims.trim_eq, String.ofList_toList]

theorem Bare.not_blank {text : String} (bare : Bare text) : ¬AllBlank text.toList := by
  intro blank
  have nothing := trim_eq_nil.mpr blank
  rw [bare.trims.trim_eq] at nothing
  exact bare.nonempty (String.toList_eq_nil_iff.mp nothing)

theorem isBlank_of_isDigit {c : Char} (digit : c.isDigit = true) : isBlank c = false := by
  have low : 48 ≤ c.toNat := (Char.isDigit_iff_toNat.mp digit).1
  have high : c.toNat ≤ 57 := (Char.isDigit_iff_toNat.mp digit).2
  have apart : ∀ range ∈ blankRanges, range.2 < 48 ∨ 57 < range.1 := by decide
  rw [isBlank, List.any_eq_false]
  intro range member
  have beside := apart range member
  simp only [Bool.and_eq_true, decide_eq_true_eq]
  omega

theorem bare_natText (number : Nat) : Bare (natText number) where
  nonempty := by
    intro empty
    apply natDigits_ne_nil number
    rw [← String.toList_ofList (l := natDigits number)]
    exact String.toList_eq_nil_iff.mpr empty
  trims := by
    rw [natText, String.toList_ofList]
    apply trims_self
    · intro c first
      exact isBlank_of_isDigit (isDigit_of_mem_natDigits (List.mem_of_mem_head? first))
    · intro c last
      exact isBlank_of_isDigit (isDigit_of_mem_natDigits (List.mem_of_getLast? last))

end Text

/-! Numbers in their digits -/

theorem Number.Width.holds_unsigned {bits number : Nat} :
    (Width.unsigned bits).Holds number ↔ number < Nat.pow 2 bits := by
  show 0 ≤ (number : Int) ∧ (number : Int) ≤ (Nat.pow 2 bits : Int) - 1 ↔ number < Nat.pow 2 bits
  omega

theorem Number.ReadAs.holds {width : Width} {text : List Char} {number : Int}
    (read : ReadAs width text (.ok number)) : width.Holds number := by
  obtain ⟨negative, body, -, reads⟩ := read
  cases reads with
  | number some_digits all holds => exact holds

theorem Number.readAs_natDigits {bits number : Nat} (fits : number < Nat.pow 2 bits) :
    ReadAs (.unsigned bits) (natDigits number) (.ok number) := by
  have all : AllDigits (natDigits number) := fun _ member => isDigit_of_mem_natDigits member
  have noPlus : (natDigits number).head? ≠ some '+' := by
    intro first
    have digit := all '+' (List.mem_of_mem_head? first)
    cases digit
  have value : signedValue false (natDigits number) = number := by
    rw [signedValue_plain, digitsValue_natDigits]
  have holds : (Width.unsigned bits).Holds (signedValue false (natDigits number)) := by
    rw [value, Width.holds_unsigned]
    exact fits
  have reads := Reads.number (natDigits_ne_nil number) all holds
  rw [value] at reads
  exact ⟨false, natDigits number, .unsigned _ noPlus nofun, reads⟩

namespace Properties

variable {properties : Properties} {key : OptionKey} {bits standard number : Nat}

/-- From what is left of a value without the blanks at its ends, nothing more is left out. -/
theorem Gives.bare {text : String} (gives : properties.Gives key text) : Bare text := by
  obtain ⟨value, -, trims, nonempty⟩ := gives
  exact ⟨nonempty, trims_self trims.first trims.last⟩

theorem HasNumber.fits (has : properties.HasNumber bits key standard number)
    (standardFits : standard < Nat.pow 2 bits) : number < Nat.pow 2 bits := by
  cases has with
  | absent => exact standardFits
  | given gives read => exact Width.holds_unsigned.mp read.holds

end Properties

/-! Settings -/

namespace Settings

/-- The value of an option. -/
def written (settings : Settings) : OptionKey → String
  | .project => settings.destination.project
  | .logstore => settings.logstore
  | .endpoint => settings.destination.endpoint
  | .accessKeyId => settings.destination.accessKeyId
  | .accessKey => settings.destination.accessKey
  | .lingerMs => natText settings.client.lingerMs
  | .maxRetries => natText settings.client.maxRetries
  | .baseRetryBackoffMs => natText settings.client.baseRetryBackoffMs
  | .maxRetryBackoffMs => natText settings.client.maxRetryBackoffMs
  | .maxBlockMs => natText settings.client.maxBlockMs
  | .threadCount => natText settings.client.threadCount
  | .buckets => natText settings.client.buckets
  | .totalSizeInBytes => natText settings.client.totalSizeInBytes
  | .adjustShardHash => if settings.client.adjustShardHash then "true" else "false"
  | .flushTimeoutMs => natText settings.flushTimeoutMs

/-- Every option with its value, none left to its standard. -/
def toProperties (settings : Settings) : Properties :=
  ⟨OptionKey.all.map fun key => (key.name, settings.written key)⟩

variable {settings : Settings} {key : OptionKey} {bits standard number : Nat}

theorem get?_toProperties (settings : Settings) (key : OptionKey) :
    settings.toProperties.get? key.name = some (settings.written key) := by
  -- Names are met once each, so the pair of an option is the first of its name.
  have names : settings.toProperties.entries.map Prod.fst = OptionKey.all.map OptionKey.name := by
    rw [toProperties, List.map_map]
    rfl
  rw [Properties.get?_eq_some_iff (names ▸ OptionKey.names_nodup)]
  exact List.mem_map.mpr ⟨key, key.mem_all, rfl⟩

theorem gives_written {text : String} (same : settings.written key = text) (bare : Bare text) :
    settings.toProperties.Gives key text :=
  ⟨text, same ▸ get?_toProperties settings key, bare.trims, bare.nonempty⟩

theorem hasNumber_written (same : settings.written key = natText number)
    (fits : number < Nat.pow 2 bits) :
    settings.toProperties.HasNumber bits key standard number := by
  refine .given (gives_written same (bare_natText number)) ?_
  rw [natText, String.toList_ofList]
  exact readAs_natDigits fits

theorem hasFlag_written (settings : Settings) (standard : Bool) :
    settings.toProperties.HasFlag .adjustShardHash standard settings.client.adjustShardHash := by
  have bareTrue : Bare "true" := ⟨by decide, trim_eq_iff.mp (by decide +kernel)⟩
  have bareFalse : Bare "false" := ⟨by decide, trim_eq_iff.mp (by decide +kernel)⟩
  cases flag : settings.client.adjustShardHash with
  | true =>
    have same : settings.written .adjustShardHash = "true" := by rw [written, flag, if_pos rfl]
    exact .yes (gives_written same bareTrue) (by decide +kernel)
  | false =>
    have same : settings.written .adjustShardHash = "false" := by
      rw [written, flag, if_neg Bool.false_ne_true]
    exact .no (gives_written same bareFalse) (by decide +kernel)

end Settings

variable {machineThreads : Nat} {properties : Properties}

theorem Destination.GivenBy.written {settings : Settings}
    (given : settings.destination.GivenBy properties) :
    settings.destination.GivenBy settings.toProperties where
  project := Settings.gives_written rfl given.project.bare
  endpoint := Settings.gives_written rfl given.endpoint.bare
  accessKeyId := Settings.gives_written rfl given.accessKeyId.bare
  accessKey := Settings.gives_written rfl given.accessKey.bare

/-- The standard numbers are in range, that of the threads because the machine counts them in a
word. -/
theorem ClientSettings.GivenBy.written {settings : Settings} (word : machineThreads < Nat.pow 2 64)
    (given : settings.client.GivenBy properties (.standard machineThreads))
    (standard : ClientSettings) : settings.client.GivenBy settings.toProperties standard where
  lingerMs := Settings.hasNumber_written rfl (given.lingerMs.fits (by decide : 2000 < Nat.pow 2 64))
  maxRetries := Settings.hasNumber_written rfl
    (given.maxRetries.fits (by decide : 10 < Nat.pow 2 32))
  baseRetryBackoffMs := Settings.hasNumber_written rfl
    (given.baseRetryBackoffMs.fits (by decide : 100 < Nat.pow 2 64))
  maxRetryBackoffMs := Settings.hasNumber_written rfl
    (given.maxRetryBackoffMs.fits (by decide : 50000 < Nat.pow 2 64))
  maxBlockMs := Settings.hasNumber_written rfl
    (given.maxBlockMs.fits (by decide : 60000 < Nat.pow 2 64))
  threadCount := Settings.hasNumber_written rfl (given.threadCount.fits word)
  buckets := Settings.hasNumber_written rfl (given.buckets.fits (by decide : 64 < Nat.pow 2 32))
  totalSizeInBytes := Settings.hasNumber_written rfl
    (given.totalSizeInBytes.fits (by decide : 100 * 1024 * 1024 < Nat.pow 2 64))
  adjustShardHash := Settings.hasFlag_written settings standard.adjustShardHash

namespace Settings

theorem GivenBy.written {settings : Settings} (word : machineThreads < Nat.pow 2 64)
    (given : settings.GivenBy machineThreads properties) (otherThreads : Nat) :
    settings.GivenBy otherThreads settings.toProperties where
  destination := given.destination.written
  logstore := gives_written rfl given.logstore.bare
  client := given.client.written word _
  ordered := given.ordered
  staffed := given.staffed
  flushTimeoutMs := hasNumber_written rfl
    (given.flushTimeoutMs.fits (by decide : 10000 < Nat.pow 2 64))
  pollIntervalMs := given.pollIntervalMs
  shutdownGraceMs := given.shutdownGraceMs

/-- Settings that were read from properties are read again, whole and on any machine, from what they
are written as. Their texts are not blank and have no blanks at the ends, the backoffs are in order
and there is a thread. -/
theorem reads_back_written (machineThreads : UInt64) {properties : Properties} {settings : Settings}
    (read : ofProperties machineThreads.toNat properties = .ok settings) :
    (∀ otherThreads, ofProperties otherThreads settings.toProperties = .ok settings) ∧
    (∀ text ∈ [settings.destination.project, settings.destination.endpoint,
        settings.destination.accessKeyId, settings.destination.accessKey, settings.logstore],
      ¬AllBlank text.toList ∧ trimmed text = text) ∧
    settings.client.baseRetryBackoffMs ≤ settings.client.maxRetryBackoffMs ∧
    1 ≤ settings.client.threadCount := by
  have given := ofProperties_eq_ok.mp read
  have parts := given.destination
  refine ⟨fun otherThreads => ?_, ?_, given.ordered, given.staffed⟩
  · rw [ofProperties_eq_ok]
    exact given.written machineThreads.toNat_lt otherThreads
  · have bare : ∀ text ∈ [settings.destination.project, settings.destination.endpoint,
        settings.destination.accessKeyId, settings.destination.accessKey, settings.logstore],
        Bare text := by
      simp only [List.forall_mem_cons]
      exact ⟨parts.project.bare, parts.endpoint.bare, parts.accessKeyId.bare, parts.accessKey.bare,
        given.logstore.bare, nofun⟩
    exact fun text member => ⟨(bare text member).not_blank, (bare text member).trimmed_eq⟩

/-- Blanks of several kinds around the values, a sign and zeros before a number, a word in capitals,
and the threads left to the machine. -/
def looseProperties : Properties :=
  ⟨[("log.project", "\u3000demo project\t"), ("log.logstore", "store"), ("log.endpoint", " local"),
    ("log.access-key-id", "id"), ("log.access-key", "key\n"),
    ("log.producer.linger-ms", "+0070"), ("log.producer.max-retries", "4294967295"),
    ("log.producer.base-retry-backoff-ms", "50000"),
    ("log.producer.total-size-in-bytes", " 18446744073709551615 "),
    ("log.producer.adjust-shard-hash", "FALSE"), ("log.producer.flush-timeout-ms", "0"),
    ("log.color", "blue")]⟩

def tightSettings : Settings :=
  ⟨⟨"demo project", "local", "id", "key"⟩, "store",
    ⟨70, 4294967295, 50000, 50000, 60000, 8, 64, 18446744073709551615, false⟩, 0, 100, 3000⟩

theorem reads_back_written_loose :
    ofProperties 8 looseProperties = .ok tightSettings ∧
      ofProperties 2 tightSettings.toProperties = .ok tightSettings ∧
      tightSettings.written .totalSizeInBytes = "18446744073709551615" ∧
      tightSettings.written .adjustShardHash = "false" := by
  have read : ofProperties (8 : UInt64).toNat looseProperties = .ok tightSettings := by
    decide +kernel
  exact ⟨read, (reads_back_written 8 read).1 2, by decide +kernel, by decide +kernel⟩

end Settings
end CheckpointSink
