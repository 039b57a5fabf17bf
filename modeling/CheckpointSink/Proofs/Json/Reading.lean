import CheckpointSink.Json.Reader
import CheckpointSink.Json.Writer
import CheckpointSink.Proofs.Number.Digits
import Mathlib.Data.List.TakeWhile

/-!
The compact text of a JSON value read back. Nothing is lost of a value whose numbers are integers that
the reader keeps exactly, whatever its strings and its nesting are.
-/

namespace CheckpointSink.Json

open CheckpointSink.Number

/-! Strings -/

theorem hexValue?_hexDigit {n : Nat} (small : n < 16) : hexValue? (hexDigit n) = some n :=
  (by decide : ∀ n < 16, hexValue? (hexDigit n) = some n) n small

theorem hexUnit?_escape {unit : Nat} (control : unit < 32) :
    hexUnit? '0' '0' (hexDigit (unit / 16)) (hexDigit (unit % 16)) = some unit := by
  have high : hexValue? (hexDigit (unit / 16)) = some (unit / 16) := hexValue?_hexDigit (by omega)
  have low : hexValue? (hexDigit (unit % 16)) = some (unit % 16) := hexValue?_hexDigit (by omega)
  have zero : hexValue? '0' = some 0 := by decide
  simp only [hexUnit?, zero, high, low, Option.bind_eq_bind, Option.bind_some, Option.pure_def]
  congr 1
  omega

theorem readUnits?_named {escaped : Char} {unit : Nat} (other : escaped ≠ 'u')
    (named : namedEscape? escaped = some unit) (text : List Char) :
    readUnits? ('\\' :: escaped :: text) =
      (readUnits? text).map fun read => (unit :: read.1, read.2) := by
  rw [readUnits?, named]
  · cases readUnits? text <;> rfl
  · intro a b c d rest same
    exact absurd same other

theorem readUnits?_plain {c : Char} (unquoted : c ≠ '"') (unescaped : c ≠ '\\')
    (uncontrolled : ¬c.toNat < 32) (text : List Char) :
    readUnits? (c :: text) = (readUnits? text).map fun read => (c.toNat :: read.1, read.2) := by
  rw [readUnits?, if_neg uncontrolled]
  · cases readUnits? text <;> rfl
  all_goals simp [unquoted, unescaped]

/-- A character is escaped by a name or, if it is a control, by its number; or it stands for itself. -/
theorem escapeChar_cases (c : Char) :
    (∃ name, escapeChar c = ['\\', name] ∧ name ≠ 'u' ∧ namedEscape? name = some c.toNat) ∨
    (escapeChar c = escapeControl c ∧ c.toNat < 32) ∨
    (escapeChar c = [c] ∧ c ≠ '"' ∧ c ≠ '\\' ∧ ¬c.toNat < 32) := by
  by_cases named : c = '"' ∨ c = '\\' ∨ c = '\x08' ∨ c = '\x0c' ∨ c = '\n' ∨ c = '\r' ∨ c = '\t'
  · left
    rcases named with rfl | rfl | rfl | rfl | rfl | rfl | rfl
    all_goals exact ⟨_, rfl, by decide, by decide⟩
  · simp only [not_or] at named
    by_cases control : c.toNat < 32 <;> simp [escapeChar, named, control]

/-- However a character is escaped, it is read as one unit. -/
theorem readUnits?_escapeChar (c : Char) (text : List Char) :
    readUnits? (escapeChar c ++ text) =
      (readUnits? text).map fun read => (c.toNat :: read.1, read.2) := by
  rcases escapeChar_cases c with ⟨name, escaped, other, named⟩ | ⟨escaped, control⟩ |
    ⟨escaped, unquoted, unescaped, uncontrolled⟩ <;> rw [escaped]
  · exact readUnits?_named other named text
  · show readUnits? ('\\' :: 'u' :: '0' :: '0' :: hexDigit (c.toNat / 16) ::
      hexDigit (c.toNat % 16) :: text) = _
    rw [readUnits?, hexUnit?_escape control]
    cases readUnits? text <;> rfl
  · exact readUnits?_plain unquoted unescaped uncontrolled text

theorem readUnits?_stringBody (chars text : List Char) :
    readUnits? (stringBody chars ++ text) = some (chars.map Char.toNat, text) := by
  induction chars with
  | nil => rfl
  | cons c rest ih =>
    show readUnits? ((escapeChar c ++ stringBody rest) ++ text) = _
    rw [List.append_assoc, readUnits?_escapeChar, ih]
    rfl

/-- No character of a string is a surrogate. -/
theorem surrogate_toNat (c : Char) :
    isHighSurrogate c.toNat = false ∧ isLowSurrogate c.toNat = false := by
  have valid : c.toNat.isValidChar := c.valid
  simp only [isHighSurrogate, isLowSurrogate, Bool.and_eq_false_iff, decide_eq_false_iff_not]
  unfold Nat.isValidChar at valid
  omega

theorem joinUnits?_toNat (chars : List Char) : joinUnits? (chars.map Char.toNat) = some chars := by
  induction chars with
  | nil => rfl
  | cons c rest ih =>
    obtain ⟨notHigh, notLow⟩ := surrogate_toNat c
    cases rest with
    | nil => simp [joinUnits?, notHigh, notLow]
    | cons next others =>
      have later : joinUnits? (next.toNat :: others.map Char.toNat) = some (next :: others) := ih
      simp [joinUnits?, notHigh, notLow, later]

theorem readString?_stringBody (value : String) (text : List Char) :
    readString? (stringBody value.toList ++ text) = some (value, text) := by
  rw [readString?, readUnits?_stringBody]
  simp [joinUnits?_toNat]

/-! Numbers -/

/-- A text that does not go on with a character of a number. -/
def EndsNumber (text : List Char) : Prop :=
  text.head?.any isNumberChar = false

theorem EndsNumber.head {c : Char} {rest : List Char} (ends : EndsNumber (c :: rest)) :
    isNumberChar c = false := by
  simpa [EndsNumber] using ends

theorem takeWhile_number {token text : List Char} (number : ∀ c ∈ token, isNumberChar c = true)
    (ends : EndsNumber text) : (token ++ text).takeWhile isNumberChar = token := by
  rw [List.takeWhile_append_of_pos number]
  cases text with
  | nil => simp
  | cons c rest => simp [ends.head]

theorem dropWhile_number {token text : List Char} (number : ∀ c ∈ token, isNumberChar c = true)
    (ends : EndsNumber text) : (token ++ text).dropWhile isNumberChar = text := by
  rw [List.dropWhile_append_of_pos number]
  cases text with
  | nil => rfl
  | cons c rest => simp [ends.head]

theorem isNumberChar_of_mem_intDigits {n : Int} {c : Char} (member : c ∈ intDigits n) :
    isNumberChar c = true := by
  have digit {m : Nat} (inside : c ∈ natDigits m) : isNumberChar c = true := by
    simp [isNumberChar, isDigit_of_mem_natDigits inside]
  unfold intDigits at member
  split at member
  · rcases List.mem_cons.mp member with rfl | inside
    · decide
    · exact digit inside
  · exact digit member

theorem hasDigitFirst_natDigits (n : Nat) : hasDigitFirst (natDigits n) = true := by
  cases digits : natDigits n with
  | nil => exact absurd digits (natDigits_ne_nil n)
  | cons c rest => exact isDigit_of_mem_natDigits (digits ▸ List.mem_cons_self)

theorem hasPlainStart_natDigits (n : Nat) : hasPlainStart (natDigits n) = true := by
  unfold hasPlainStart
  split
  next rest digits =>
    cases n with
    | zero =>
      cases digits
      rfl
    | succ m => exact absurd (by rw [digits]; rfl) (head?_natDigits (Nat.succ_pos m))
  next => exact hasDigitFirst_natDigits n

theorem hasPlainFraction_natDigits (n : Nat) : hasPlainFraction (natDigits n) = true := by
  have all : (natDigits n).dropWhile Char.isDigit = [] :=
    List.dropWhile_eq_nil_iff.mpr fun _ member => isDigit_of_mem_natDigits member
  rw [hasPlainFraction, all]

theorem all_isDigit_natDigits (n : Nat) : (natDigits n).all Char.isDigit = true :=
  List.all_eq_true.mpr fun _ member => isDigit_of_mem_natDigits member

theorem readNumberToken?_intDigits {n : Int} (least : leastInteger ≤ n)
    (greatest : n ≤ greatestInteger) : readNumberToken? (intDigits n) = some (.integer n) := by
  by_cases negative : n < 0
  · obtain ⟨m, rfl⟩ : ∃ m : Nat, n = -(m : Int) := ⟨n.natAbs, by omega⟩
    have token : intDigits (-(m : Int)) = '-' :: natDigits m := by
      rw [intDigits, if_pos negative, Int.natAbs_neg, Int.natAbs_natCast]
    have positive : m ≠ 0 := by omega
    simp [readNumberToken?, token, hasPlainStart_natDigits, hasPlainFraction_natDigits,
      all_isDigit_natDigits, least, greatest, positive]
  · obtain ⟨m, rfl⟩ : ∃ m : Nat, n = (m : Int) := ⟨n.natAbs, by omega⟩
    have token : intDigits (m : Int) = natDigits m := by
      rw [intDigits, if_neg negative, Int.natAbs_natCast]
    have unsigned : (natDigits m).head? ≠ some '-' := by
      intro sign
      have first := hasDigitFirst_natDigits m
      rw [hasDigitFirst, sign] at first
      cases first
    simp [readNumberToken?, token, hasPlainStart_natDigits, hasPlainFraction_natDigits,
      all_isDigit_natDigits, least, greatest, unsigned]

theorem readNumber?_intDigits {n : Int} (least : leastInteger ≤ n) (greatest : n ≤ greatestInteger)
    {text : List Char} (ends : EndsNumber text) :
    readNumber? (intDigits n ++ text) = some (.integer n, text) := by
  have number : ∀ c ∈ intDigits n, isNumberChar c = true := fun _ => isNumberChar_of_mem_intDigits
  rw [readNumber?, takeWhile_number number ends, dropWhile_number number ends,
    readNumberToken?_intDigits least greatest]
  rfl

/-! Values -/

namespace Value

mutual

/-- There are no floating point numbers, and no integers but those that the reader keeps. -/
def isExact : Value → Bool
  | null => true
  | bool _ => true
  | integer value => leastInteger ≤ value && value ≤ greatestInteger
  | float _ => false
  | string _ => true
  | array items => areExact items
  | object members => membersExact members

def areExact : List Value → Bool
  | [] => true
  | item :: rest => isExact item && areExact rest

def membersExact : List (String × Value) → Bool
  | [] => true
  | (_, value) :: rest => isExact value && membersExact rest

end

end Value

theorem skipSpace_cons {c : Char} (solid : isSpace c = false) (text : List Char) :
    skipSpace (c :: text) = c :: text := by
  simp [skipSpace, solid]

theorem intDigits_cons (n : Int) : ∃ c rest, intDigits n = c :: rest ∧ isNumberChar c = true := by
  cases digits : intDigits n with
  | nil =>
    unfold intDigits at digits
    split at digits
    · cases digits
    · exact absurd digits (natDigits_ne_nil _)
  | cons c rest =>
    exact ⟨c, rest, rfl, isNumberChar_of_mem_intDigits (digits ▸ List.mem_cons_self)⟩

/-- No number begins like another value, with a blank or with the end of an array. -/
theorem solid_of_isNumberChar {c : Char} (number : isNumberChar c = true) :
    isSpace c = false ∧ c ∉ ['n', 't', 'f', '"', '[', ']', '\x7b'] := by
  have others : ([' ', '\t', '\n', '\r', 'n', 't', 'f', '"', '[', ']', '\x7b'].all
      fun c => !isNumberChar c) = true := by
    decide
  have other (d : Char) (member : d ∈ [' ', '\t', '\n', '\r', 'n', 't', 'f', '"', '[', ']', '\x7b']) :
      c ≠ d := by
    rintro rfl
    simpa [number] using List.all_eq_true.mp others c member
  simp [isSpace, other]

/-- A value does not begin with a blank or with the end of an array. -/
theorem text_cons {value : Value} (exact : value.isExact = true) :
    ∃ c rest, value.text = c :: rest ∧ isSpace c = false ∧ c ≠ ']' := by
  match value with
  | .null => exact ⟨_, _, rfl, by decide, by decide⟩
  | .bool true => exact ⟨_, _, rfl, by decide, by decide⟩
  | .bool false => exact ⟨_, _, rfl, by decide, by decide⟩
  | .integer n =>
    obtain ⟨c, rest, digits, number⟩ := intDigits_cons n
    obtain ⟨solid, other⟩ := solid_of_isNumberChar number
    refine ⟨c, rest, digits, solid, ?_⟩
    rintro rfl
    exact other (by decide)
  | .float _ => cases exact
  | .string _ => exact ⟨_, _, rfl, by decide, by decide⟩
  | .array [] => exact ⟨_, _, rfl, by decide, by decide⟩
  | .array (_ :: _) => exact ⟨_, _, rfl, by decide, by decide⟩
  | .object [] => exact ⟨_, _, rfl, by decide, by decide⟩
  | .object ((_, _) :: _) => exact ⟨_, _, rfl, by decide, by decide⟩

theorem readValue?_integer {n : Int} (least : leastInteger ≤ n) (greatest : n ≤ greatestInteger)
    {text : List Char} (ends : EndsNumber text) (depth : Nat) :
    readValue? (depth + 1) (intDigits n ++ text) = some (.integer n, text) := by
  have read := readNumber?_intDigits least greatest ends
  obtain ⟨c, rest, digits, number⟩ := intDigits_cons n
  obtain ⟨solid, other⟩ := solid_of_isNumberChar number
  rw [digits] at read ⊢
  simp only [List.mem_cons, List.not_mem_nil, or_false, not_or] at other
  have start : skipSpace (c :: rest ++ text) = c :: rest ++ text := skipSpace_cons solid _
  rw [readValue?, start]
  split <;> simp_all

theorem readValue?_array {c : Char} (solid : isSpace c = false) (other : c ≠ ']') (depth : Nat)
    (text : List Char) : readValue? (depth + 1) ('[' :: c :: text) =
      (readItems? depth (c :: text)).map fun read => (.array read.1, read.2) := by
  have start : skipSpace ('[' :: c :: text) = '[' :: c :: text := rfl
  simp only [readValue?, start, skipSpace_cons solid text]
  split
  next same => exact absurd (List.cons.inj same).1 other
  next => rfl

theorem endsNumber_itemsText (items : List Value) (text : List Char) :
    EndsNumber (Value.itemsText items ++ text) := by
  cases items <;> rfl

theorem endsNumber_membersText (members : List (String × Value)) (text : List Char) :
    EndsNumber (Value.membersText members ++ text) := by
  rcases members with _ | ⟨⟨name, value⟩, rest⟩ <;> rfl

-- By recursion on the value. A bracket or a comma takes at most two levels of the depth and is one
-- character of the text, so twice the length is enough.
mutual

/-- A value is read to its end if the depth is twice the length of its text. -/
theorem readValue?_text : (value : Value) → value.isExact = true → {text : List Char} →
    EndsNumber text → {depth : Nat} → 2 * value.text.length ≤ depth →
      readValue? depth (value.text ++ text) = some (value, text)
  | .null, _, _, _, depth + 1, _ => rfl
  | .bool true, _, _, _, depth + 1, _ => rfl
  | .bool false, _, _, _, depth + 1, _ => rfl
  | .integer n, _, _, _, 0, enough => by
    obtain ⟨c, rest, digits, -⟩ := intDigits_cons n
    simp [Value.text, digits] at enough
  | .integer n, exact, text, ends, depth + 1, _ => by
    obtain ⟨least, greatest⟩ : leastInteger ≤ n ∧ n ≤ greatestInteger := by
      simpa [Value.isExact] using exact
    exact readValue?_integer least greatest ends depth
  | .string value, _, text, _, depth + 1, _ => by
    show (readString? (stringBody value.toList ++ text)).map _ = _
    rw [readString?_stringBody]
    rfl
  | .array [], _, _, _, depth + 1, _ => rfl
  | .array (item :: rest), exact, text, _, depth + 1, enough => by
    have items : readItems? depth ((Value.itemsText (item :: rest)).tail ++ text) =
        some (item :: rest, text) :=
      readItems?_itemsText (item :: rest) exact (List.cons_ne_nil _ _) (by
        simp only [Value.text, Value.itemsText, List.cons_append, List.length_cons] at enough ⊢
        omega)
    obtain ⟨exactItem, -⟩ : item.isExact = true ∧ Value.areExact rest = true := by
      simpa [Value.isExact, Value.areExact] using exact
    obtain ⟨c, others, started, solid, other⟩ := text_cons exactItem
    have inside : (Value.itemsText (item :: rest)).tail ++ text =
        c :: (others ++ Value.itemsText rest ++ text) := by
      simp [Value.itemsText, started]
    show readValue? (depth + 1) ('[' :: ((Value.itemsText (item :: rest)).tail ++ text)) = _
    rw [inside, readValue?_array solid other, ← inside, items]
    rfl
  | .object [], _, _, _, depth + 1, _ => rfl
  | .object ((name, value) :: rest), exact, text, _, depth + 1, enough => by
    have members : readMembers? depth ((Value.membersText ((name, value) :: rest)).tail ++ text) =
        some ((name, value) :: rest, text) :=
      readMembers?_membersText ((name, value) :: rest) exact (List.cons_ne_nil _ _) (by
        simp only [Value.text, Value.membersText, List.cons_append, List.length_cons] at enough ⊢
        omega)
    show (readMembers? depth ((Value.membersText ((name, value) :: rest)).tail ++ text)).map _ = _
    rw [members]
    rfl
  | .float _, exact, _, _, _, _ => by cases exact

theorem readItems?_itemsText : (items : List Value) → Value.areExact items = true →
    items ≠ [] → {text : List Char} → {depth : Nat} →
      2 * (Value.itemsText items).length ≤ depth + 1 →
        readItems? depth ((Value.itemsText items).tail ++ text) = some (items, text)
  | [], _, nonempty, _, _, _ => absurd rfl nonempty
  | item :: rest, exact, _, text, depth + 1, enough => by
    obtain ⟨exactItem, exactRest⟩ : item.isExact = true ∧ Value.areExact rest = true := by
      simpa [Value.areExact] using exact
    simp only [Value.itemsText, List.cons_append, List.length_cons, List.length_append] at enough
    have first : readValue? depth (item.text ++ (Value.itemsText rest ++ text)) =
        some (item, Value.itemsText rest ++ text) :=
      readValue?_text item exactItem (endsNumber_itemsText rest text) (by omega)
    show readItems? (depth + 1) (item.text ++ Value.itemsText rest ++ text) = _
    rw [List.append_assoc, readItems?, first]
    cases rest with
    | nil => rfl
    | cons next others =>
      have later : readItems? depth ((Value.itemsText (next :: others)).tail ++ text) =
          some (next :: others, text) :=
        readItems?_itemsText (next :: others) exactRest (List.cons_ne_nil _ _) (by omega)
      show (readItems? depth ((Value.itemsText (next :: others)).tail ++ text)).map _ = _
      rw [later]
      rfl

theorem readMembers?_membersText : (members : List (String × Value)) →
    Value.membersExact members = true → members ≠ [] → {text : List Char} → {depth : Nat} →
      2 * (Value.membersText members).length ≤ depth + 1 →
        readMembers? depth ((Value.membersText members).tail ++ text) = some (members, text)
  | [], _, nonempty, _, _, _ => absurd rfl nonempty
  | (name, value) :: rest, exact, _, text, depth + 1, enough => by
    obtain ⟨exactValue, exactRest⟩ : value.isExact = true ∧ Value.membersExact rest = true := by
      simpa [Value.membersExact] using exact
    simp only [Value.membersText, List.cons_append, List.length_cons, List.length_append] at enough
    have first : readValue? depth (value.text ++ (Value.membersText rest ++ text)) =
        some (value, Value.membersText rest ++ text) :=
      readValue?_text value exactValue (endsNumber_membersText rest text) (by omega)
    have inside : (Value.membersText ((name, value) :: rest)).tail ++ text =
        '"' :: (stringBody name.toList ++ ':' :: (value.text ++ (Value.membersText rest ++ text))) := by
      simp [Value.membersText, stringText]
    have quoted (more : List Char) : skipSpace ('"' :: more) = '"' :: more := rfl
    have colon (more : List Char) : skipSpace (':' :: more) = ':' :: more := rfl
    simp only [inside, readMembers?, quoted, readString?_stringBody, colon, first]
    cases rest with
    | nil => rfl
    | cons next others =>
      have later : readMembers? depth ((Value.membersText (next :: others)).tail ++ text) =
          some (next :: others, text) :=
        readMembers?_membersText (next :: others) exactRest (List.cons_ne_nil _ _) (by omega)
      show (readMembers? depth ((Value.membersText (next :: others)).tail ++ text)).map _ = _
      rw [later]
      rfl

end

/-- The compact text of an exact value is read as that value. -/
theorem ofText?_compact {value : Value} (exact : value.isExact = true) :
    Value.ofText? value.compact = some value := by
  have ended : EndsNumber [] := rfl
  have read : readValue? (2 * value.text.length + 2) value.text = some (value, []) := by
    simpa using readValue?_text value exact ended (Nat.le_add_right _ 2)
  rw [Value.ofText?, Value.compact, String.toList_ofList, read?, read]
  rfl

end CheckpointSink.Json
