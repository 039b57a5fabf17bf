import CheckpointSink.Record.Text
import CheckpointSink.Proofs.Fields
import CheckpointSink.Proofs.Json.Reading

/-!
Records decoded from their JSON text. Members are looked up by their names, and a member that has not
the form it should have is a failure. Since the text of a record decodes to that record, no two records
have the same text.
-/

namespace CheckpointSink

open CheckpointSink.Json

variable {α : Type}

/-! Decoders -/

namespace Json.Value

/-- The member of the name, decoded. -/
def field? (name : String) (decode : Value → Option α) (value : Value) : Option α :=
  (value.member? name).bind decode

/-- An array with every item decoded. -/
def array? (decode : Value → Option α) (value : Value) : Option (List α) :=
  value.items?.bind fun items => items.mapM decode

/-- An object with every member decoded, of members of one name the last. -/
def fields? (decode : Value → Option α) (value : Value) : Option (FieldMap α) :=
  value.members?.bind fun members =>
    (members.mapM fun member => (decode member.2).map (member.1, ·)).map .ofPairs

/-- A number of 32 bits without a sign. -/
def word? (value : Value) : Option UInt32 :=
  value.integer?.bind fun number =>
    if 0 ≤ number ∧ number.toNat < UInt32.size then some (UInt32.ofNat number.toNat) else none

/-- A text that may be absent. -/
def optional? : Value → Option (Option String)
  | null => some none
  | string value => some (some value)
  | _ => none

/-- An array of a name and a value. -/
def pair? : Value → Option (String × String)
  | array [string name, string value] => some (name, value)
  | _ => none

end Json.Value

open Json.Value

def Log.ofJson? (value : Value) : Option Log := do
  let time ← value.field? "time" word?
  let contents ← value.field? "contents" (fields? string?)
  return ⟨time, contents⟩

def LogGroup.ofJson? (value : Value) : Option LogGroup := do
  let logs ← value.field? "logs" (array? Log.ofJson?)
  let topic ← value.field? "topic" string?
  let source ← value.field? "source" string?
  return ⟨logs, topic, source⟩

def LogItem.ofJson? (value : Value) : Option LogItem := do
  let time ← value.field? "time" word?
  let contents ← value.field? "contents" (array? pair?)
  return ⟨time, contents⟩

def LogRequest.ofJson? (value : Value) : Option LogRequest := do
  let project ← value.field? "project" string?
  let logstore ← value.field? "logstore" string?
  let topic ← value.field? "topic" string?
  let source ← value.field? "source" string?
  let shardHashKey ← value.field? "shard_hash_key" optional?
  let items ← value.field? "items" (array? LogItem.ofJson?)
  return ⟨project, logstore, topic, source, shardHashKey, items⟩

def SendResult.ofJson? (value : Value) : Option SendResult := do
  let successful ← value.field? "successful" bool?
  let attempts ← value.field? "attempt_count" word?
  let errorCode ← value.field? "error_code" optional?
  let errorMessage ← value.field? "error_message" optional?
  return ⟨successful, attempts, errorCode, errorMessage⟩

/-- A text read as JSON and decoded. -/
def Json.decodeText? (decode : Value → Option α) (text : String) : Option α :=
  (Value.ofText? text).bind decode

/-! Decoding what was encoded -/

theorem mapM_map_eq_some {β : Type} {encode : α → β} {decode : β → Option α}
    (decoded : ∀ item, decode (encode item) = some item) (items : List α) :
    (items.map encode).mapM decode = some items := by
  have inverse : decode ∘ encode = fun item => pure item := funext decoded
  rw [List.mapM_map, inverse, List.mapM_pure, List.map_id']
  rfl

namespace Json.Value

theorem field?_eq_some {value found : Value} {name : String} {decode : Value → Option α} {item : α}
    (member : value.member? name = some found) (decoded : decode found = some item) :
    value.field? name decode = some item := by
  rw [field?, member, Option.bind_some, decoded]

theorem array?_map {encode : α → Value} {decode : Value → Option α}
    (decoded : ∀ item, decode (encode item) = some item) (items : List α) :
    array? decode (array (items.map encode)) = some items :=
  mapM_map_eq_some decoded items

theorem fields?_map {encode : α → Value} {decode : Value → Option α}
    (decoded : ∀ item, decode (encode item) = some item) (fields : FieldMap α) :
    fields? decode (object (fields.entries.map fun entry => (entry.1, encode entry.2))) =
      some fields := by
  have pairs : (fields.entries.map fun entry => (entry.1, encode entry.2)).mapM
      (fun member => (decode member.2).map (member.1, ·)) = some fields.entries :=
    mapM_map_eq_some (fun entry => by rw [decoded]; rfl) _
  simp only [fields?, members?, Option.bind_some, pairs, Option.map_some, FieldMap.ofPairs_entries]

theorem word?_integer (number : UInt32) : word? (integer number.toNat) = some number := by
  have small : 0 ≤ (number.toNat : Int) ∧ (number.toNat : Int).toNat < UInt32.size :=
    ⟨Int.natCast_nonneg _, number.toNat_lt_size⟩
  rw [word?, integer?, Option.bind_some, if_pos small, Int.toNat_natCast, UInt32.ofNat_toNat]

theorem optional?_optionalString (value : Option String) :
    optional? (optionalString value) = some value := by
  cases value <;> rfl

end Json.Value

theorem Log.ofJson?_json (log : Log) : ofJson? log.json = some log := by
  have decoded (value : String) : string? (.string value) = some value := rfl
  have time : log.json.field? "time" word? = some log.time :=
    field?_eq_some rfl (word?_integer log.time)
  have contents : log.json.field? "contents" (fields? string?) = some log.contents :=
    field?_eq_some rfl (fields?_map decoded log.contents)
  rw [ofJson?, time, contents]
  rfl

theorem LogGroup.ofJson?_json (group : LogGroup) : ofJson? group.json = some group := by
  have logs : group.json.field? "logs" (array? Log.ofJson?) = some group.logs :=
    field?_eq_some rfl (array?_map Log.ofJson?_json group.logs)
  rw [ofJson?, logs]
  rfl

theorem LogItem.ofJson?_json (item : LogItem) : ofJson? item.json = some item := by
  have decoded (entry : String × String) :
      pair? (.array [.string entry.1, .string entry.2]) = some entry := rfl
  have time : item.json.field? "time" word? = some item.time :=
    field?_eq_some rfl (word?_integer item.time)
  have contents : item.json.field? "contents" (array? pair?) = some item.contents :=
    field?_eq_some rfl (array?_map decoded item.contents)
  rw [ofJson?, time, contents]
  rfl

theorem LogRequest.ofJson?_json (request : LogRequest) : ofJson? request.json = some request := by
  have shardHashKey : request.json.field? "shard_hash_key" optional? = some request.shardHashKey :=
    field?_eq_some rfl (optional?_optionalString request.shardHashKey)
  have items : request.json.field? "items" (array? LogItem.ofJson?) = some request.items :=
    field?_eq_some rfl (array?_map LogItem.ofJson?_json request.items)
  rw [ofJson?, shardHashKey, items]
  rfl

theorem SendResult.ofJson?_json (result : SendResult) : ofJson? result.json = some result := by
  have attempts : result.json.field? "attempt_count" word? = some result.attempts :=
    field?_eq_some rfl (word?_integer result.attempts)
  have errorCode : result.json.field? "error_code" optional? = some result.errorCode :=
    field?_eq_some rfl (optional?_optionalString result.errorCode)
  have errorMessage : result.json.field? "error_message" optional? = some result.errorMessage :=
    field?_eq_some rfl (optional?_optionalString result.errorMessage)
  rw [ofJson?, attempts, errorCode, errorMessage]
  rfl

/-! Texts -/

namespace Json.Value

theorem areExact_map {encode : α → Value} (exact : ∀ item, (encode item).isExact = true)
    (items : List α) : areExact (items.map encode) = true := by
  induction items with
  | nil => rfl
  | cons item rest ih => simp [areExact, exact, ih]

theorem membersExact_map {encode : α → Value} (exact : ∀ item, (encode item).isExact = true)
    (entries : List (String × α)) :
    membersExact (entries.map fun entry => (entry.1, encode entry.2)) = true := by
  induction entries with
  | nil => rfl
  | cons entry rest ih => simp [membersExact, exact, ih]

theorem isExact_word (number : UInt32) : (integer number.toNat).isExact = true := by
  have least : leastInteger ≤ 0 := by decide
  have greatest : (UInt32.size : Int) ≤ greatestInteger := by decide
  have bound := number.toNat_lt_size
  simp only [isExact, Bool.and_eq_true, decide_eq_true_eq]
  omega

theorem isExact_optionalString (value : Option String) : (optionalString value).isExact = true := by
  cases value <;> rfl

end Json.Value

theorem Log.isExact_json (log : Log) : log.json.isExact = true := by
  have exact (value : String) : (Value.string value).isExact = true := rfl
  show membersExact _ = true
  rw [membersExact, membersExact, isExact_word, isExact, membersExact_map exact]
  rfl

theorem LogGroup.isExact_json (group : LogGroup) : group.json.isExact = true := by
  show membersExact _ = true
  rw [membersExact, isExact, areExact_map Log.isExact_json]
  rfl

theorem LogItem.isExact_json (item : LogItem) : item.json.isExact = true := by
  have exact (entry : String × String) :
      (Value.array [.string entry.1, .string entry.2]).isExact = true := rfl
  show membersExact _ = true
  rw [membersExact, membersExact, isExact_word, isExact, areExact_map exact]
  rfl

theorem LogRequest.isExact_json (request : LogRequest) : request.json.isExact = true := by
  have items := areExact_map LogItem.isExact_json request.items
  have shardHashKey := isExact_optionalString request.shardHashKey
  simp [json, isExact, membersExact, items, shardHashKey]

theorem SendResult.isExact_json (result : SendResult) : result.json.isExact = true := by
  have errorCode := isExact_optionalString result.errorCode
  have errorMessage := isExact_optionalString result.errorMessage
  show membersExact _ = true
  rw [membersExact, membersExact, membersExact, membersExact, isExact_word, errorCode, errorMessage]
  rfl

theorem Json.decodeText?_compact {encode : α → Value} {decode : Value → Option α}
    (exact : ∀ record, (encode record).isExact = true)
    (decoded : ∀ record, decode (encode record) = some record) (record : α) :
    decodeText? decode (encode record).compact = some record := by
  rw [decodeText?, ofText?_compact (exact record), Option.bind_some, decoded]

/-- Records that are decoded from their texts have different texts. -/
theorem Json.compact_injective {encode : α → Value} {decode : Value → Option α}
    (decoded : ∀ record, decodeText? decode (encode record).compact = some record) :
    Function.Injective fun record => (encode record).compact := by
  intro first second same
  have read := congrArg (decodeText? decode) same
  exact Option.some.inj ((decoded first).symm.trans (read.trans (decoded second)))

/-- The compact text of a record, whatever its strings are, decodes to that record: it is read as the
JSON value with the members of the record and nothing else, and these give the record back. Therefore
records of one kind with the same text are equal. A key or a code that is absent is told from every one
that is present. -/
theorem decoded_from_text :
    ((∀ group : LogGroup, Value.ofText? group.json.compact = some group.json ∧
        decodeText? LogGroup.ofJson? group.json.compact = some group) ∧
      (∀ request : LogRequest, Value.ofText? request.json.compact = some request.json ∧
        decodeText? LogRequest.ofJson? request.json.compact = some request) ∧
      ∀ result : SendResult, Value.ofText? result.json.compact = some result.json ∧
        decodeText? SendResult.ofJson? result.json.compact = some result) ∧
    ((Function.Injective fun group : LogGroup => group.json.compact) ∧
      (Function.Injective fun request : LogRequest => request.json.compact) ∧
      Function.Injective fun result : SendResult => result.json.compact) ∧
    (∀ (without present : LogRequest) (key : String),
      { without with shardHashKey := none }.json.compact ≠
        { present with shardHashKey := some key }.json.compact) ∧
    ∀ (without present : SendResult) (code : String),
      { without with errorCode := none }.json.compact ≠
        { present with errorCode := some code }.json.compact := by
  have groups := decodeText?_compact LogGroup.isExact_json LogGroup.ofJson?_json
  have requests := decodeText?_compact LogRequest.isExact_json LogRequest.ofJson?_json
  have results := decodeText?_compact SendResult.isExact_json SendResult.ofJson?_json
  have requestTexts := compact_injective requests
  have resultTexts := compact_injective results
  refine ⟨⟨fun group => ⟨ofText?_compact group.isExact_json, groups group⟩,
    fun request => ⟨ofText?_compact request.isExact_json, requests request⟩,
    fun result => ⟨ofText?_compact result.isExact_json, results result⟩⟩,
    ⟨compact_injective groups, requestTexts, resultTexts⟩, ?_, ?_⟩
  · intro without present key same
    cases congrArg LogRequest.shardHashKey (requestTexts same)
  · intro without present code same
    cases congrArg SendResult.errorCode (resultTexts same)

end CheckpointSink
