import CheckpointSink.Proofs.Options.Reading
import CheckpointSink.Proofs.Options.Values

/-!
Which properties settings can be read from, and the fault of all others. Seventeen checks follow one
another; the settings are read when all of them pass, and otherwise the first that does not pass
says why, whatever the checks after it would have said.
-/

namespace CheckpointSink

open CheckpointSink.Number CheckpointSink.Text

/-- Something that is asked of the properties of a sink. -/
inductive OptionCheck where
  | text (key : OptionKey)
  | number (key : OptionKey) (bits : Nat)
  | flag (key : OptionKey)
  | backoffs
  | threads

namespace OptionCheck

def ofDestination : List OptionCheck :=
  [text .project, text .endpoint, text .accessKeyId, text .accessKey]

def ofClient : List OptionCheck :=
  [number .lingerMs 64, number .maxRetries 32, number .baseRetryBackoffMs 64,
    number .maxRetryBackoffMs 64, number .maxBlockMs 64, number .threadCount 64,
    number .buckets 32, number .totalSizeInBytes 64, flag .adjustShardHash]

/-- The checks in their order. -/
def all : List OptionCheck :=
  ofDestination ++ [text .logstore] ++ ofClient ++ [backoffs, threads, number .flushTimeoutMs 64]

section

variable (machineThreads : Nat) (properties : Properties)

/-- What a check asks for. The last two are about the numbers that hold, given or standard. -/
def Passes : OptionCheck → Prop
  | text key => ∃ text, properties.Gives key text
  | number key bits => ∀ text, properties.Gives key text →
      ∃ number, ReadAs (.unsigned bits) text.toList (.ok number)
  | flag key => ∀ text, properties.Gives key text →
      text.map Char.toLower = "true" ∨ text.map Char.toLower = "false"
  | backoffs => ∀ base longest,
      properties.HasNumber 64 .baseRetryBackoffMs
        (ClientSettings.standard machineThreads).baseRetryBackoffMs base →
      properties.HasNumber 64 .maxRetryBackoffMs
        (ClientSettings.standard machineThreads).maxRetryBackoffMs longest →
      base ≤ longest
  | threads => ∀ count, properties.HasNumber 64 .threadCount machineThreads count → 1 ≤ count

/-- What a check that does not pass says. -/
inductive Fails : OptionCheck → OptionError → Prop where
  | missing {key : OptionKey} (absent : ∀ text, ¬properties.Gives key text) :
      Fails (text key) (.missing key.name)
  | noNumber {key : OptionKey} {bits : Nat} {text : String} {fault : IntegerFault}
      (gives : properties.Gives key text)
      (read : ReadAs (.unsigned bits) text.toList (.error fault)) :
      Fails (number key bits) (.invalid key.name text fault.message)
  | noFlag {key : OptionKey} {text : String} (gives : properties.Gives key text)
      (notYes : text.map Char.toLower ≠ "true") (notNo : text.map Char.toLower ≠ "false") :
      Fails (flag key) (.invalid key.name text "expected `true` or `false`")
  | unordered {base longest : Nat}
      (begins : properties.HasNumber 64 .baseRetryBackoffMs
        (ClientSettings.standard machineThreads).baseRetryBackoffMs base)
      (ends : properties.HasNumber 64 .maxRetryBackoffMs
        (ClientSettings.standard machineThreads).maxRetryBackoffMs longest)
      (less : longest < base) :
      Fails backoffs (.invalid OptionKey.baseRetryBackoffMs.name (natText base)
        ("must not exceed " ++ OptionKey.maxRetryBackoffMs.name ++ " (" ++ natText longest ++ ")"))
  | noThreads (none : properties.HasNumber 64 .threadCount machineThreads 0) :
      Fails threads (.invalid OptionKey.threadCount.name "0" "must be at least 1")

/-- The fault of the earliest check that does not pass. -/
inductive FirstFault : List OptionCheck → OptionError → Prop where
  | here {check : OptionCheck} {checks : List OptionCheck} {error : OptionError}
      (fails : check.Fails machineThreads properties error) : FirstFault (check :: checks) error
  | later {check : OptionCheck} {checks : List OptionCheck} {error : OptionError}
      (passes : check.Passes machineThreads properties) (fault : FirstFault checks error) :
      FirstFault (check :: checks) error

end

variable {machineThreads : Nat} {properties : Properties} {α β : Type}

theorem not_firstFault_nil (error : OptionError) :
    ¬FirstFault machineThreads properties [] error := by
  intro fault
  cases fault

theorem firstFault_singleton {check : OptionCheck} {error : OptionError} :
    FirstFault machineThreads properties [check] error ↔
      check.Fails machineThreads properties error := by
  constructor
  · intro fault
    cases fault with
    | here fails => exact fails
    | later passes fault => exact absurd fault (not_firstFault_nil error)
  · exact .here

theorem firstFault_append {first second : List OptionCheck} {error : OptionError} :
    FirstFault machineThreads properties (first ++ second) error ↔
      FirstFault machineThreads properties first error ∨
        (∀ check ∈ first, check.Passes machineThreads properties) ∧
          FirstFault machineThreads properties second error := by
  induction first with
  | nil => simp [not_firstFault_nil]
  | cons check first ih =>
    constructor
    · intro fault
      cases fault with
      | here fails => exact .inl (.here fails)
      | later passes fault =>
        obtain earlier | ⟨pass, fault⟩ := ih.mp fault
        · exact .inl (.later passes earlier)
        · exact .inr ⟨List.forall_mem_cons.mpr ⟨passes, pass⟩, fault⟩
    · rintro (fault | ⟨pass, fault⟩)
      · cases fault with
        | here fails => exact .here fails
        | later passes fault => exact .later passes (ih.mpr (.inl fault))
      · obtain ⟨passes, pass⟩ := List.forall_mem_cons.mp pass
        exact .later passes (ih.mpr (.inr ⟨pass, fault⟩))

/-- A read that makes some checks: it succeeds when they pass, and otherwise reports the first that
does not. -/
structure Judges (machineThreads : Nat) (properties : Properties) (checks : List OptionCheck)
    (read : Except OptionError α) : Prop where
  accepts : (∃ value, read = .ok value) ↔
    ∀ check ∈ checks, check.Passes machineThreads properties
  refuses : ∀ error, read = .error error ↔ FirstFault machineThreads properties checks error

theorem judges_pure (value : α) :
    Judges machineThreads properties [] (.ok value : Except OptionError α) where
  accepts := by simp
  refuses error := by simp [not_firstFault_nil]

theorem Judges.single {check : OptionCheck} {read : Except OptionError α}
    (passes : (∃ value, read = .ok value) ↔ check.Passes machineThreads properties)
    (fails : ∀ error, read = .error error ↔ check.Fails machineThreads properties error) :
    Judges machineThreads properties [check] read where
  accepts := by rw [passes, List.forall_mem_singleton]
  refuses error := by rw [fails, firstFault_singleton]

/-- The checks of a read that goes on come after those of its beginning. -/
theorem Judges.bind {first second : List OptionCheck} {read : Except OptionError α}
    {rest : α → Except OptionError β} (begins : Judges machineThreads properties first read)
    (goesOn : ∀ value, read = .ok value → Judges machineThreads properties second (rest value)) :
    Judges machineThreads properties (first ++ second) (read >>= rest) := by
  cases found : read with
  | error fault =>
    have blocked : ¬∀ check ∈ first, check.Passes machineThreads properties := by
      rw [← begins.accepts, found]
      simp
    constructor
    · constructor
      · rintro ⟨value, same⟩
        cases same
      · intro pass
        exact absurd (fun check member => pass check (List.mem_append_left _ member)) blocked
    · intro error
      have same : (.error fault : Except OptionError β) = .error error ↔ read = .error error := by
        simp [found]
      rw [firstFault_append, ← begins.refuses]
      exact same.trans ⟨.inl, fun fault => fault.resolve_right fun later => blocked later.1⟩
  | ok value =>
    have pass : ∀ check ∈ first, check.Passes machineThreads properties :=
      begins.accepts.mp ⟨value, found⟩
    have after := goesOn value found
    constructor
    · rw [List.forall_mem_append]
      exact after.accepts.trans ⟨fun later => ⟨pass, later⟩, And.right⟩
    · intro error
      have noFault : ¬FirstFault machineThreads properties first error := by
        rw [← begins.refuses, found]
        simp
      rw [firstFault_append]
      exact (after.refuses error).trans
        ⟨fun fault => .inr ⟨pass, fault⟩, fun fault => (fault.resolve_left noFault).2⟩

/-! The reads of single options. -/

theorem judges_text (key : OptionKey) :
    Judges machineThreads properties [text key] (properties.text key.name) := by
  refine .single (exists_congr fun value => Properties.text_eq_ok) fun error => ?_
  rw [Properties.text_eq_error]
  constructor
  · rintro ⟨absent, rfl⟩
    exact .missing absent
  · intro fails
    cases fails with
    | missing absent => exact ⟨absent, rfl⟩

theorem judges_number (key : OptionKey) (bits standard : Nat) :
    Judges machineThreads properties [number key bits]
      (properties.naturalOr bits key.name standard) := by
  refine .single ?_ fun error => ?_
  · simp only [Properties.naturalOr_eq_ok]
    constructor
    · rintro ⟨number, has⟩ text gives
      cases has with
      | given given read =>
        rw [Properties.Gives.unique gives given]
        exact ⟨_, read⟩
      | absent absent => exact absurd gives (absent text)
    · intro readable
      by_cases given : ∃ text, properties.Gives key text
      · obtain ⟨text, gives⟩ := given
        obtain ⟨number, read⟩ := readable text gives
        obtain ⟨natural, rfl⟩ := Int.eq_ofNat_of_zero_le read.nonneg
        exact ⟨natural, .given gives read⟩
      · exact ⟨standard, .absent (not_exists.mp given)⟩
  · rw [Properties.naturalOr_eq_error]
    constructor
    · rintro ⟨text, fault, gives, read, rfl⟩
      exact .noNumber gives read
    · intro fails
      cases fails with
      | noNumber gives read => exact ⟨_, _, gives, read, rfl⟩

theorem judges_flag (key : OptionKey) (standard : Bool) :
    Judges machineThreads properties [flag key] (properties.flagOr key.name standard) := by
  refine .single ?_ fun error => ?_
  · simp only [Properties.flagOr_eq_ok]
    constructor
    · rintro ⟨flag, has⟩ text gives
      cases has with
      | yes given word => exact .inl (Properties.Gives.unique gives given ▸ word)
      | no given word => exact .inr (Properties.Gives.unique gives given ▸ word)
      | absent absent => exact absurd gives (absent text)
    · intro readable
      by_cases given : ∃ text, properties.Gives key text
      · obtain ⟨text, gives⟩ := given
        obtain word | word := readable text gives
        · exact ⟨true, .yes gives word⟩
        · exact ⟨false, .no gives word⟩
      · exact ⟨standard, .absent (not_exists.mp given)⟩
  · rw [Properties.flagOr_eq_error]
    constructor
    · rintro ⟨text, gives, notYes, notNo, rfl⟩
      exact .noFlag gives notYes notNo
    · intro fails
      cases fails with
      | noFlag gives notYes notNo => exact ⟨_, gives, notYes, notNo, rfl⟩

end OptionCheck

open OptionCheck

variable {machineThreads : Nat} {properties : Properties}

theorem bind_eq_ok {α β : Type} {read : Except OptionError α} {rest : α → Except OptionError β}
    {value : β} :
    (read >>= rest) = .ok value ↔ ∃ found, read = .ok found ∧ rest found = .ok value := by
  cases read with
  | error fault => simp [bind, Except.bind]
  | ok found => simp [bind, Except.bind]

/-- A destination all parts of which are given. -/
structure Destination.GivenBy (properties : Properties) (destination : Destination) : Prop where
  project : properties.Gives .project destination.project
  endpoint : properties.Gives .endpoint destination.endpoint
  accessKeyId : properties.Gives .accessKeyId destination.accessKeyId
  accessKey : properties.Gives .accessKey destination.accessKey

/-- Settings of a client that are given or else the standard ones. -/
structure ClientSettings.GivenBy (properties : Properties) (client standard : ClientSettings) :
    Prop where
  lingerMs : properties.HasNumber 64 .lingerMs standard.lingerMs client.lingerMs
  maxRetries : properties.HasNumber 32 .maxRetries standard.maxRetries client.maxRetries
  baseRetryBackoffMs : properties.HasNumber 64 .baseRetryBackoffMs standard.baseRetryBackoffMs
    client.baseRetryBackoffMs
  maxRetryBackoffMs : properties.HasNumber 64 .maxRetryBackoffMs standard.maxRetryBackoffMs
    client.maxRetryBackoffMs
  maxBlockMs : properties.HasNumber 64 .maxBlockMs standard.maxBlockMs client.maxBlockMs
  threadCount : properties.HasNumber 64 .threadCount standard.threadCount client.threadCount
  buckets : properties.HasNumber 32 .buckets standard.buckets client.buckets
  totalSizeInBytes : properties.HasNumber 64 .totalSizeInBytes standard.totalSizeInBytes
    client.totalSizeInBytes
  adjustShardHash : properties.HasFlag .adjustShardHash standard.adjustShardHash
    client.adjustShardHash

/-- The settings that properties stand for, the numbers of which fit together. -/
structure Settings.GivenBy (machineThreads : Nat) (properties : Properties) (settings : Settings) :
    Prop where
  destination : settings.destination.GivenBy properties
  logstore : properties.Gives .logstore settings.logstore
  client : settings.client.GivenBy properties (.standard machineThreads)
  ordered : settings.client.baseRetryBackoffMs ≤ settings.client.maxRetryBackoffMs
  staffed : 1 ≤ settings.client.threadCount
  flushTimeoutMs :
    properties.HasNumber 64 .flushTimeoutMs standardFlushTimeoutMs settings.flushTimeoutMs
  pollIntervalMs : settings.pollIntervalMs = standardPollIntervalMs
  shutdownGraceMs : settings.shutdownGraceMs = standardShutdownGraceMs

namespace Settings

theorem readDestination_eq_ok {destination : Destination} :
    readDestination properties = .ok destination ↔ destination.GivenBy properties := by
  simp only [readDestination, bind_eq_ok, Properties.text_eq_ok, pure, Except.pure,
    Except.ok.injEq]
  constructor
  · rintro ⟨project, atProject, endpoint, atEndpoint, accessKeyId, atId, accessKey, atKey, rfl⟩
    exact ⟨atProject, atEndpoint, atId, atKey⟩
  · intro given
    exact ⟨_, given.project, _, given.endpoint, _, given.accessKeyId, _, given.accessKey, rfl⟩

theorem readClient_eq_ok {standard client : ClientSettings} :
    readClient properties standard = .ok client ↔ client.GivenBy properties standard := by
  simp only [readClient, bind_eq_ok, Properties.naturalOr_eq_ok, Properties.flagOr_eq_ok, pure,
    Except.pure, Except.ok.injEq]
  constructor
  · rintro ⟨lingerMs, linger, maxRetries, retries, baseMs, base, longestMs, longest, blockMs, block,
      threadCount, threads, bucketCount, buckets, totalSize, total, adjust, flag, rfl⟩
    exact ⟨linger, retries, base, longest, block, threads, buckets, total, flag⟩
  · intro given
    exact ⟨_, given.lingerMs, _, given.maxRetries, _, given.baseRetryBackoffMs, _,
      given.maxRetryBackoffMs, _, given.maxBlockMs, _, given.threadCount, _, given.buckets, _,
      given.totalSizeInBytes, _, given.adjustShardHash, rfl⟩

theorem checkBackoff_eq_ok {client : ClientSettings} {done : Unit} :
    checkBackoff client = .ok done ↔ client.baseRetryBackoffMs ≤ client.maxRetryBackoffMs := by
  rw [checkBackoff]
  split <;> simp <;> omega

theorem checkThreads_eq_ok {client : ClientSettings} {done : Unit} :
    checkThreads client = .ok done ↔ 1 ≤ client.threadCount := by
  rw [checkThreads]
  split <;> simp <;> omega

theorem ofProperties_eq_ok {settings : Settings} :
    ofProperties machineThreads properties = .ok settings ↔
      settings.GivenBy machineThreads properties := by
  simp only [ofProperties, bind_eq_ok, readDestination_eq_ok, Properties.text_eq_ok,
    readClient_eq_ok, checkBackoff_eq_ok, checkThreads_eq_ok, Properties.naturalOr_eq_ok, pure,
    Except.pure, Except.ok.injEq]
  constructor
  · rintro ⟨destination, parts, logstore, store, client, chosen, -, ordered, -, staffed, timeout,
      flush, rfl⟩
    exact ⟨parts, store, chosen, ordered, staffed, flush, rfl, rfl⟩
  · intro given
    refine ⟨_, given.destination, _, given.logstore, _, given.client, (), given.ordered, (),
      given.staffed, _, given.flushTimeoutMs, ?_⟩
    rw [← given.pollIntervalMs, ← given.shutdownGraceMs]

/-! The checks that the parts of a read make. -/

theorem judges_readDestination :
    Judges machineThreads properties ofDestination (readDestination properties) :=
  (judges_text .project).bind fun _ _ =>
    (judges_text .endpoint).bind fun _ _ =>
      (judges_text .accessKeyId).bind fun _ _ =>
        (judges_text .accessKey).bind fun _ _ => judges_pure _

theorem judges_readClient (standard : ClientSettings) :
    Judges machineThreads properties ofClient (readClient properties standard) :=
  (judges_number .lingerMs 64 _).bind fun _ _ =>
    (judges_number .maxRetries 32 _).bind fun _ _ =>
      (judges_number .baseRetryBackoffMs 64 _).bind fun _ _ =>
        (judges_number .maxRetryBackoffMs 64 _).bind fun _ _ =>
          (judges_number .maxBlockMs 64 _).bind fun _ _ =>
            (judges_number .threadCount 64 _).bind fun _ _ =>
              (judges_number .buckets 32 _).bind fun _ _ =>
                (judges_number .totalSizeInBytes 64 _).bind fun _ _ =>
                  (judges_flag .adjustShardHash _).bind fun _ _ => judges_pure _

theorem judges_checkBackoff {client : ClientSettings}
    (given : client.GivenBy properties (.standard machineThreads)) :
    Judges machineThreads properties [backoffs] (checkBackoff client) := by
  refine .single ?_ fun error => ?_
  · simp only [checkBackoff_eq_ok, exists_const]
    constructor
    · intro ordered base longest begins ends
      rw [begins.unique given.baseRetryBackoffMs, ends.unique given.maxRetryBackoffMs]
      exact ordered
    · intro ordered
      exact ordered _ _ given.baseRetryBackoffMs given.maxRetryBackoffMs
  · rw [checkBackoff]
    constructor
    · intro same
      split at same
      · rename_i less
        cases same
        exact .unordered given.baseRetryBackoffMs given.maxRetryBackoffMs less
      · cases same
    · intro fails
      cases fails with
      | unordered begins ends less =>
        rw [begins.unique given.baseRetryBackoffMs, ends.unique given.maxRetryBackoffMs] at less ⊢
        rw [if_pos less]

theorem judges_checkThreads {client : ClientSettings}
    (given : client.GivenBy properties (.standard machineThreads)) :
    Judges machineThreads properties [threads] (checkThreads client) := by
  refine .single ?_ fun error => ?_
  · simp only [checkThreads_eq_ok, exists_const]
    constructor
    · intro staffed count has
      rw [has.unique given.threadCount]
      exact staffed
    · intro staffed
      exact staffed _ given.threadCount
  · rw [checkThreads]
    have zero : natText 0 = "0" := by decide
    constructor
    · intro same
      split at same
      · rename_i none
        cases same
        have has := given.threadCount
        rw [none] at has ⊢
        exact zero ▸ .noThreads has
      · cases same
    · intro fails
      cases fails with
      | noThreads has => rw [given.threadCount.unique has, if_pos rfl, zero]

theorem judges_ofProperties :
    Judges machineThreads properties all (ofProperties machineThreads properties) := by
  refine judges_readDestination.bind fun _ _ => (judges_text .logstore).bind fun _ _ =>
    (judges_readClient _).bind fun client read => ?_
  have given := readClient_eq_ok.mp read
  exact (judges_checkBackoff given).bind fun _ _ => (judges_checkThreads given).bind fun _ _ =>
    (judges_number .flushTimeoutMs 64 _).bind fun _ _ => judges_pure _

/-- Only the values that options are left with count. -/
theorem ofProperties_congr_present {first second : Properties}
    (same : ∀ key : OptionKey, first.present? key.name = second.present? key.name) :
    ofProperties machineThreads first = ofProperties machineThreads second := by
  simp only [ofProperties, readDestination, readClient, Properties.text, Properties.naturalOr,
    Properties.integerOr, Properties.flagOr, same]

/-- Settings are read if and only if every check passes, and they are then the ones that the
properties stand for; otherwise the earliest check that does not pass gives its fault. Blanks around
the values of the options and whatever stands under other names make no difference. -/
theorem reads_exactly_valid (machineThreads : Nat) (properties : Properties) :
    (∀ settings, ofProperties machineThreads properties = .ok settings ↔
      settings.GivenBy machineThreads properties) ∧
    ((∃ settings, ofProperties machineThreads properties = .ok settings) ↔
      ∀ check ∈ all, check.Passes machineThreads properties) ∧
    (∀ error, ofProperties machineThreads properties = .error error ↔
      FirstFault machineThreads properties all error) ∧
    ∀ other : Properties,
      (∀ key : OptionKey, Properties.Padded (properties.get? key.name) (other.get? key.name)) →
      ofProperties machineThreads other = ofProperties machineThreads properties := by
  refine ⟨fun settings => ofProperties_eq_ok, judges_ofProperties.accepts,
    judges_ofProperties.refuses, fun other padded => ?_⟩
  exact ofProperties_congr_present fun key => Properties.present?_padded (padded key)

/-- The order of the backoffs is checked before the flush timeout is read. -/
example : ofProperties 4 ⟨[("log.project", "p"), ("log.endpoint", "e"),
    ("log.access-key-id", "i"), ("log.access-key", "k"), ("log.logstore", " l\t"),
    ("log.producer.flush-timeout-ms", "soon"), ("log.producer.max-retry-backoff-ms", "+5")]⟩ =
    .error (.invalid "log.producer.base-retry-backoff-ms" "100"
      "must not exceed log.producer.max-retry-backoff-ms (5)") := by
  decide +kernel

end Settings
end CheckpointSink
