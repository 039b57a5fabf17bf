import CheckpointSink.Number.Integer
import CheckpointSink.Proofs.Number.Digits
import Mathlib.Data.List.Induction
import Mathlib.Data.List.TakeWhile

/-!
The grammar of integers of a fixed width, and which fault of a text is the one reported. Digits and
the end of the range are met from the left: a number that has left the range does not come back, so
the first digit with which it leaves and the first character that is no digit decide together.
-/

namespace CheckpointSink.Number

/-- The number that digits stand for under a sign. -/
def signedValue (negative : Bool) (digits : List Char) : Int :=
  if negative then -(digitsValue digits : Int) else digitsValue digits

def AllDigits (text : List Char) : Prop :=
  ∀ c ∈ text, c.isDigit = true

/-- The numbers of a width. -/
def Width.Holds (width : Width) (number : Int) : Prop :=
  width.least ≤ number ∧ number ≤ width.greatest

/-- The sign of a text, if it begins with one that its width allows, and what follows the sign. -/
inductive Signs (width : Width) : List Char → Bool → List Char → Prop where
  | plus (body : List Char) : Signs width ('+' :: body) false body
  | minus (body : List Char) (allowed : width.signed = true) : Signs width ('-' :: body) true body
  | unsigned (body : List Char) (noPlus : body.head? ≠ some '+')
      (noMinus : width.signed = true → body.head? ≠ some '-') : Signs width body false body

/-- What the characters after the sign are read as. -/
inductive Reads (width : Width) (negative : Bool) : List Char → Except IntegerFault Int → Prop where
  | number {digits : List Char} (some_digits : digits ≠ []) (all : AllDigits digits)
      (holds : width.Holds (signedValue negative digits)) :
      Reads width negative digits (.ok (signedValue negative digits))
  | nothing : Reads width negative [] (.error .invalidDigit)
  /-- No part of the digits before the first other character is out of range. -/
  | other {digits : List Char} {c : Char} {rest : List Char} (all : AllDigits digits)
      (noDigit : c.isDigit = false)
      (holds : ∀ part, part <+: digits → width.Holds (signedValue negative part)) :
      Reads width negative (digits ++ c :: rest) (.error .invalidDigit)
  | tooLarge {digits rest : List Char} (all : AllDigits digits)
      (leaves : width.greatest < signedValue negative digits) :
      Reads width negative (digits ++ rest) (.error .tooLarge)
  | tooSmall {digits rest : List Char} (all : AllDigits digits)
      (leaves : signedValue negative digits < width.least) :
      Reads width negative (digits ++ rest) (.error .tooSmall)

/-! Digits -/

theorem signedValue_plain (digits : List Char) :
    signedValue false digits = digitsValue digits := rfl

theorem signedValue_negative (digits : List Char) :
    signedValue true digits = -(digitsValue digits : Int) := rfl

theorem digitValue_eq {c : Char} (digit : c.isDigit = true) :
    digitValue c = ((c.toNat - 48 : Nat) : Int) := by
  have bound : 48 ≤ c.toNat := (Char.isDigit_iff_toNat.mp digit).1
  rw [digitValue]
  omega

/-- One digit more is added to ten times the number before it, or taken off. -/
theorem signedValue_concat (negative : Bool) (digits : List Char) {c : Char}
    (digit : c.isDigit = true) : signedValue negative (digits ++ [c]) =
      if negative then signedValue negative digits * 10 - digitValue c
      else signedValue negative digits * 10 + digitValue c := by
  rw [digitValue_eq digit]
  simp only [signedValue, digitsValue_concat]
  cases negative <;> simp only [Bool.false_eq_true, if_true, if_false] <;> omega

theorem digitsValue_append_le (digits more : List Char) :
    digitsValue digits ≤ digitsValue (digits ++ more) := by
  induction more using List.reverseRecOn with
  | nil => simp
  | append_singleton more c ih =>
    rw [← List.append_assoc, digitsValue_concat]
    omega

theorem Width.least_nonpos (width : Width) : width.least ≤ 0 := by
  rw [Width.least]
  split <;> omega

theorem Width.greatest_nonneg (width : Width) : 0 ≤ width.greatest := by
  have power (bits : Nat) : 0 < Nat.pow 2 bits := Nat.pow_pos (by decide)
  have whole := power width.bits
  have half := power (width.bits - 1)
  rw [Width.greatest]
  split <;> omega

/-- The end of the range that a number is beyond. -/
def Width.fault? (width : Width) (number : Int) : Option IntegerFault :=
  if number < width.least then some .tooSmall
  else if width.greatest < number then some .tooLarge
  else none

theorem Width.fault?_eq_none {width : Width} {number : Int} :
    width.fault? number = none ↔ width.Holds number := by
  unfold fault? Holds
  split
  · simp only [reduceCtorEq, false_iff]
    omega
  · split
    · simp only [reduceCtorEq, false_iff]
      omega
    · simp only [true_iff]
      omega

theorem Width.fault?_tooLarge {width : Width} {number : Int} (leaves : width.greatest < number) :
    width.fault? number = some .tooLarge := by
  have least := width.least_nonpos
  have greatest := width.greatest_nonneg
  rw [fault?, if_neg (by omega), if_pos leaves]

theorem Width.fault?_tooSmall {width : Width} {number : Int} (leaves : number < width.least) :
    width.fault? number = some .tooSmall := by
  rw [fault?, if_pos leaves]

/-- A number that has left the range does not come back with more digits. -/
theorem Width.fault?_append {width : Width} {negative : Bool} {digits : List Char}
    {fault : IntegerFault} (left : width.fault? (signedValue negative digits) = some fault)
    (more : List Char) : width.fault? (signedValue negative (digits ++ more)) = some fault := by
  have order := digitsValue_append_le digits more
  have least := width.least_nonpos
  have greatest := width.greatest_nonneg
  cases negative with
  | false =>
    rw [signedValue_plain] at left ⊢
    rw [fault?, if_neg (by omega)] at left
    split at left
    · rw [← left]
      apply fault?_tooLarge
      omega
    · cases left
  | true =>
    rw [signedValue_negative] at left ⊢
    rw [fault?] at left
    split at left
    · rw [← left]
      apply fault?_tooSmall
      omega
    · rw [if_neg (by omega)] at left
      cases left

theorem Width.Holds.part {width : Width} {negative : Bool} {digits part : List Char}
    (holds : width.Holds (signedValue negative digits)) (isPart : part <+: digits) :
    width.Holds (signedValue negative part) := by
  obtain ⟨more, rfl⟩ := isPart
  rw [← fault?_eq_none] at holds ⊢
  cases left : width.fault? (signedValue negative part) with
  | none => rfl
  | some fault =>
    rw [fault?_append left more] at holds
    cases holds

/-! The scan -/

section

variable {width : Width} {negative : Bool} {seen digits rest : List Char}

/-- What the next digit makes of the number. -/
theorem readDigits_cons {c : Char} (digit : c.isDigit = true) (seen rest : List Char) :
    readDigits width negative (signedValue negative seen) (c :: rest) =
      match width.fault? (signedValue negative (seen ++ [c])) with
      | some fault => .error fault
      | none => readDigits width negative (signedValue negative (seen ++ [c])) rest := by
  rw [readDigits, if_pos digit, ← signedValue_concat negative seen digit, Width.fault?]
  dsimp only
  split
  · rfl
  · split <;> rfl

/-- Digits that stay in range are passed over. -/
theorem readDigits_append (all : AllDigits digits)
    (holds : width.Holds (signedValue negative (seen ++ digits))) (rest : List Char) :
    readDigits width negative (signedValue negative seen) (digits ++ rest) =
      readDigits width negative (signedValue negative (seen ++ digits)) rest := by
  induction digits generalizing seen with
  | nil => rw [List.nil_append, List.append_nil]
  | cons c digits ih =>
    have digit := all c List.mem_cons_self
    have others : AllDigits digits := fun other member => all other (List.mem_cons_of_mem _ member)
    rw [List.append_cons seen c digits] at holds ⊢
    have next := Width.fault?_eq_none.mpr (holds.part (List.prefix_append _ digits))
    rw [List.cons_append, readDigits_cons digit, next]
    exact ih others holds

/-- The first digit with which the number leaves the range ends the scan. -/
theorem readDigits_leaves {fault : IntegerFault} (all : AllDigits digits)
    (before : width.Holds (signedValue negative seen))
    (leaves : width.fault? (signedValue negative (seen ++ digits)) = some fault)
    (rest : List Char) :
    readDigits width negative (signedValue negative seen) (digits ++ rest) = .error fault := by
  induction digits generalizing seen with
  | nil =>
    rw [List.append_nil, Width.fault?_eq_none.mpr before] at leaves
    cases leaves
  | cons c digits ih =>
    have digit := all c List.mem_cons_self
    have others : AllDigits digits := fun other member => all other (List.mem_cons_of_mem _ member)
    rw [List.append_cons seen c digits] at leaves
    rw [List.cons_append, readDigits_cons digit]
    cases next : width.fault? (signedValue negative (seen ++ [c])) with
    | none => exact ih others (Width.fault?_eq_none.mp next) leaves
    | some first =>
      rw [Width.fault?_append next digits] at leaves
      rw [Option.some.inj leaves]

theorem signedValue_nil (negative : Bool) : signedValue negative [] = 0 := by
  cases negative <;> rfl

theorem readMagnitude_eq {text : List Char} (some_text : text ≠ []) :
    readMagnitude width negative text = readDigits width negative (signedValue negative []) text := by
  rw [readMagnitude, signedValue_nil, if_neg (by simpa using some_text)]

theorem Width.holds_begun (width : Width) (negative : Bool) :
    width.Holds (signedValue negative []) := by
  rw [signedValue_nil]
  exact ⟨width.least_nonpos, width.greatest_nonneg⟩

/-- Digits that leave the range are digits at all. -/
theorem readMagnitude_leaves {fault : IntegerFault} (all : AllDigits digits)
    (leaves : width.fault? (signedValue negative digits) = some fault) (rest : List Char) :
    readMagnitude width negative (digits ++ rest) = .error fault := by
  have begun := width.holds_begun negative
  have some_digits : digits ++ rest ≠ [] := by
    intro none
    rw [(List.append_eq_nil_iff.mp none).1, Width.fault?_eq_none.mpr begun] at leaves
    cases leaves
  rw [readMagnitude_eq some_digits]
  exact readDigits_leaves all begun leaves rest

theorem Reads.readMagnitude_eq {text : List Char} {result : Except IntegerFault Int}
    (reads : Reads width negative text result) : readMagnitude width negative text = result := by
  cases reads with
  | number some_digits all holds =>
    have passed : readDigits width negative (signedValue negative []) (text ++ []) =
        readDigits width negative (signedValue negative text) [] := readDigits_append all holds []
    rw [List.append_nil] at passed
    rw [Number.readMagnitude_eq some_digits]
    exact passed
  | nothing => rfl
  | @other digits c rest all noDigit holds =>
    have passed : readDigits width negative (signedValue negative []) (digits ++ c :: rest) =
        readDigits width negative (signedValue negative digits) (c :: rest) :=
      readDigits_append all (holds digits (List.prefix_refl digits)) (c :: rest)
    rw [Number.readMagnitude_eq (by simp), passed, readDigits, if_neg (by simp [noDigit])]
  | tooLarge all leaves => exact readMagnitude_leaves all (Width.fault?_tooLarge leaves) _
  | tooSmall all leaves => exact readMagnitude_leaves all (Width.fault?_tooSmall leaves) _

/-- Every text is read as something: its first digits leave the range, or they end at another
character, or they are the whole text. -/
theorem exists_reads (width : Width) (negative : Bool) (text : List Char) :
    ∃ result, Reads width negative text result := by
  have split : text.takeWhile Char.isDigit ++ text.dropWhile Char.isDigit = text :=
    List.takeWhile_append_dropWhile
  have all : AllDigits (text.takeWhile Char.isDigit) := fun _ member => List.mem_takeWhile_imp member
  have stops := List.head?_dropWhile_not Char.isDigit text
  generalize text.takeWhile Char.isDigit = digits at split all
  generalize text.dropWhile Char.isDigit = rest at split stops
  subst split
  by_cases large : width.greatest < signedValue negative digits
  · exact ⟨_, .tooLarge all large⟩
  by_cases small : signedValue negative digits < width.least
  · exact ⟨_, .tooSmall all small⟩
  have holds : width.Holds (signedValue negative digits) :=
    ⟨Int.not_lt.mp small, Int.not_lt.mp large⟩
  cases rest with
  | cons c rest => exact ⟨_, .other all stops fun _ isPart => holds.part isPart⟩
  | nil =>
    rw [List.append_nil]
    cases digits with
    | nil => exact ⟨_, .nothing⟩
    | cons c digits => exact ⟨_, .number (by simp) all holds⟩

/-- The scan reads a text as the grammar says. -/
theorem readMagnitude_eq_iff {text : List Char} {result : Except IntegerFault Int} :
    readMagnitude width negative text = result ↔ Reads width negative text result := by
  constructor
  · rintro rfl
    obtain ⟨result, reads⟩ := exists_reads width negative text
    rwa [reads.readMagnitude_eq]
  · exact Reads.readMagnitude_eq

end

theorem Signs.readInteger_eq {width : Width} {text body : List Char} {negative : Bool}
    (signs : Signs width text negative body) :
    readInteger width text = readMagnitude width negative body := by
  cases signs with
  | plus => rfl
  | minus body allowed =>
    rw [readInteger, if_pos allowed]
  | unsigned body noPlus noMinus =>
    unfold readInteger
    split
    · exact absurd rfl noPlus
    · split
      · rename_i allowed
        exact absurd rfl (noMinus allowed)
      · rfl
    · rfl

theorem exists_signs (width : Width) (text : List Char) :
    ∃ negative body, Signs width text negative body := by
  by_cases plus : text.head? = some '+'
  · obtain ⟨body, rfl⟩ := List.head?_eq_some_iff.mp plus
    exact ⟨_, _, .plus body⟩
  by_cases minus : width.signed = true ∧ text.head? = some '-'
  · obtain ⟨allowed, first⟩ := minus
    obtain ⟨body, rfl⟩ := List.head?_eq_some_iff.mp first
    exact ⟨_, _, .minus body allowed⟩
  · exact ⟨_, _, .unsigned text plus fun allowed first => minus ⟨allowed, first⟩⟩

/-- What a text is read as, by its sign and the characters after it. -/
def ReadAs (width : Width) (text : List Char) (result : Except IntegerFault Int) : Prop :=
  ∃ negative body, Signs width text negative body ∧ Reads width negative body result

theorem readInteger_eq_iff {width : Width} {text : List Char} {result : Except IntegerFault Int} :
    readInteger width text = result ↔ ReadAs width text result := by
  constructor
  · rintro rfl
    obtain ⟨negative, body, signs⟩ := exists_signs width text
    exact ⟨negative, body, signs, readMagnitude_eq_iff.mp signs.readInteger_eq.symm⟩
  · rintro ⟨negative, body, signs, reads⟩
    exact signs.readInteger_eq.trans reads.readMagnitude_eq

theorem ReadAs.nonneg {bits : Nat} {text : List Char} {number : Int}
    (read : ReadAs (.unsigned bits) text (.ok number)) : 0 ≤ number := by
  obtain ⟨negative, body, -, reads⟩ := read
  cases reads with
  | number some_digits all holds => exact holds.1

end CheckpointSink.Number
