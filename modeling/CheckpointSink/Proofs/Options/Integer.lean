import CheckpointSink.Options.Properties
import CheckpointSink.Proofs.Number.Integer
import CheckpointSink.Proofs.Text.Blank

/-!
Options with integers for values. A value that is absent or blank leaves the standard number in
place; any other is read without the blanks at its ends, and the grammar of its width decides.
-/

namespace CheckpointSink

open CheckpointSink.Number CheckpointSink.Text

namespace Properties

variable {properties : Properties} {name : String}

theorem isEmpty_trimmed (value : String) :
    (trimmed value).isEmpty = true ↔ AllBlank value.toList := by
  rw [String.isEmpty_iff, trimmed, ← trim_eq_nil, ← String.toList_inj, String.toList_ofList]
  rfl

theorem present?_of_blank {value : String} (given : properties.get? name = some value)
    (blank : AllBlank value.toList) : properties.present? name = none := by
  simp only [present?, given, if_pos ((isEmpty_trimmed value).mpr blank)]

theorem present?_of_not_blank {value : String} (given : properties.get? name = some value)
    (notBlank : ¬AllBlank value.toList) : properties.present? name = some (trimmed value) := by
  simp only [present?, given, if_neg (mt (isEmpty_trimmed value).mp notBlank)]

theorem present?_eq_none : properties.present? name = none ↔
    ∀ value, properties.get? name = some value → AllBlank value.toList := by
  constructor
  · intro absent value given
    by_contra notBlank
    rw [present?_of_not_blank given notBlank] at absent
    cases absent
  · intro blank
    cases given : properties.get? name with
    | none => simp only [present?, given]
    | some value => exact present?_of_blank given (blank value given)

theorem integerOr_of_absent (absent : properties.present? name = none) (width : Width)
    (standard : Int) : properties.integerOr width name standard = .ok standard := by
  simp only [integerOr, absent]

theorem integerOr_of_present {text : String} (present : properties.present? name = some text)
    (width : Width) (standard : Int) : properties.integerOr width name standard =
      (readInteger width text.toList).mapError fun fault => .invalid name text fault.message := by
  simp only [integerOr, present]
  cases readInteger width text.toList <;> rfl

theorem integerOr_eq_ok {text : String} (present : properties.present? name = some text)
    (width : Width) (standard number : Int) :
    properties.integerOr width name standard = .ok number ↔
      ReadAs width text.toList (.ok number) := by
  rw [integerOr_of_present present, ← readInteger_eq_iff]
  cases readInteger width text.toList <;> simp [Except.mapError]

theorem integerOr_eq_error {text : String} (present : properties.present? name = some text)
    (width : Width) (standard : Int) (error : OptionError) :
    properties.integerOr width name standard = .error error ↔
      ∃ fault, ReadAs width text.toList (.error fault) ∧
        error = .invalid name text fault.message := by
  rw [integerOr_of_present present]
  simp only [← readInteger_eq_iff]
  cases readInteger width text.toList <;> simp [Except.mapError, eq_comm]

/-- The third digit leaves the range before the letter is met. -/
example : Properties.integerOr ⟨[("number", " +300x")]⟩ (.unsigned 8) "number" 0 =
    .error (.invalid "number" "+300x" "number too large to fit in target type") := by
  decide +kernel

end Properties
end CheckpointSink
