import CheckpointSink.Options.Key
import CheckpointSink.Proofs.Options.Integer

/-!
What a single option is read as: a text that must be there, a number or a truth value that has a
standard one to fall back on. Blanks at the ends of a value never count.
-/

namespace CheckpointSink

open CheckpointSink.Number CheckpointSink.Text

namespace Properties

variable {properties : Properties} {key : OptionKey} {bits standard : Nat}

/-- The value of an option without the blanks at its ends, if there is more to it than blanks. -/
def Gives (properties : Properties) (key : OptionKey) (text : String) : Prop :=
  ∃ value, properties.get? key.name = some value ∧ Trims value.toList text.toList ∧ text ≠ ""

/-- The number of an option, which is the standard one where none is given. -/
inductive HasNumber (properties : Properties) (bits : Nat) (key : OptionKey) (standard : Nat) :
    Nat → Prop where
  | given {text : String} {number : Nat} (gives : properties.Gives key text)
      (read : ReadAs (.unsigned bits) text.toList (.ok number)) :
      HasNumber properties bits key standard number
  | absent (absent : ∀ text, ¬properties.Gives key text) :
      HasNumber properties bits key standard standard

/-- The truth value of an option, in letters of either case. -/
inductive HasFlag (properties : Properties) (key : OptionKey) (standard : Bool) : Bool → Prop where
  | yes {text : String} (gives : properties.Gives key text)
      (word : text.map Char.toLower = "true") : HasFlag properties key standard true
  | no {text : String} (gives : properties.Gives key text)
      (word : text.map Char.toLower = "false") : HasFlag properties key standard false
  | absent (absent : ∀ text, ¬properties.Gives key text) :
      HasFlag properties key standard standard

/-- A value, and the same with blanks around it. -/
inductive Padded : Option String → Option String → Prop where
  | absent : Padded none none
  | given {value padded : String} {before after : List Char}
      (around : padded.toList = before ++ value.toList ++ after)
      (blankBefore : AllBlank before) (blankAfter : AllBlank after) :
      Padded (some value) (some padded)

theorem present?_padded {other : Properties} {name : String}
    (padded : Padded (properties.get? name) (other.get? name)) :
    other.present? name = properties.present? name := by
  rw [present?, present?]
  generalize properties.get? name = value, other.get? name = text at padded ⊢
  cases padded with
  | absent => rfl
  | @given value text before after around blankBefore blankAfter =>
    have same : trimmed text = trimmed value := by
      rw [trimmed, around, trim_padded blankBefore blankAfter, trimmed]
    dsimp only
    rw [same]

theorem present?_eq_some {text : String} :
    properties.present? key.name = some text ↔ properties.Gives key text := by
  constructor
  · intro present
    cases given : properties.get? key.name with
    | none =>
      rw [present?_eq_none.mpr (by simp [given])] at present
      cases present
    | some value =>
      have notBlank : ¬AllBlank value.toList := by
        intro blank
        rw [present?_of_blank given blank] at present
        cases present
      rw [present?_of_not_blank given notBlank] at present
      cases present
      refine ⟨value, given, ?_, ?_⟩
      · rw [trimmed, String.toList_ofList]
        exact trims_trim value.toList
      · intro empty
        exact notBlank ((isEmpty_trimmed value).mp (String.isEmpty_iff.mpr empty))
  · rintro ⟨value, given, trims, nonempty⟩
    have same : trimmed value = text := by
      rw [← String.toList_inj, trimmed, String.toList_ofList, trims.trim_eq]
    have notBlank : ¬AllBlank value.toList := by
      rw [← isEmpty_trimmed, same, String.isEmpty_iff]
      exact nonempty
    rw [present?_of_not_blank given notBlank, same]

theorem Gives.unique {first second : String} (one : properties.Gives key first)
    (other : properties.Gives key second) : first = second := by
  rw [← present?_eq_some] at one other
  exact Option.some.inj (one.symm.trans other)

theorem absent_iff :
    properties.present? key.name = none ↔ ∀ text, ¬properties.Gives key text := by
  simp only [Option.eq_none_iff_forall_ne_some, ne_eq, present?_eq_some]

theorem text_eq_ok {text : String} :
    properties.text key.name = .ok text ↔ properties.Gives key text := by
  rw [← present?_eq_some, Properties.text]
  cases properties.present? key.name <;> simp

theorem text_eq_error {error : OptionError} : properties.text key.name = .error error ↔
    (∀ text, ¬properties.Gives key text) ∧ error = .missing key.name := by
  rw [← absent_iff, Properties.text]
  cases properties.present? key.name <;> simp [eq_comm]

theorem naturalOr_eq_ok {number : Nat} :
    properties.naturalOr bits key.name standard = .ok number ↔
      properties.HasNumber bits key standard number := by
  rw [naturalOr]
  cases present : properties.present? key.name with
  | none =>
    rw [integerOr_of_absent present]
    constructor
    · intro same
      cases same
      exact .absent (absent_iff.mp present)
    · intro number
      cases number with
      | given gives =>
        rw [present?_eq_some.mpr gives] at present
        cases present
      | absent => rfl
  | some text =>
    have gives := present?_eq_some.mp present
    have read := integerOr_eq_ok present (.unsigned bits) standard
    constructor
    · intro same
      cases found : properties.integerOr (.unsigned bits) key.name standard with
      | error fault =>
        rw [found] at same
        cases same
      | ok integer =>
        rw [found] at same
        cases same
        have nonneg := ((read integer).mp found).nonneg
        refine .given gives ((read _).mp (found.trans ?_))
        rw [Int.toNat_of_nonneg nonneg]
    · intro number
      cases number with
      | @given other number gives given =>
        rw [present?_eq_some.mpr gives] at present
        cases present
        rw [(read number).mpr given]
        rfl
      | absent absent => exact absurd gives (absent text)

theorem HasNumber.unique {first second : Nat} (one : properties.HasNumber bits key standard first)
    (other : properties.HasNumber bits key standard second) : first = second := by
  rw [← naturalOr_eq_ok] at one other
  exact Except.ok.inj (one.symm.trans other)

theorem naturalOr_eq_error {error : OptionError} :
    properties.naturalOr bits key.name standard = .error error ↔
      ∃ text fault, properties.Gives key text ∧ ReadAs (.unsigned bits) text.toList (.error fault) ∧
        error = .invalid key.name text fault.message := by
  have mapped : properties.naturalOr bits key.name standard = .error error ↔
      properties.integerOr (.unsigned bits) key.name standard = .error error := by
    rw [naturalOr]
    cases properties.integerOr (.unsigned bits) key.name standard <;> simp [Except.map]
  simp only [mapped, ← present?_eq_some]
  cases present : properties.present? key.name with
  | none => simp [integerOr_of_absent present]
  | some text => simp [integerOr_eq_error present]

theorem flagOr_eq_ok {standard flag : Bool} : properties.flagOr key.name standard = .ok flag ↔
    properties.HasFlag key standard flag := by
  rw [flagOr]
  cases present : properties.present? key.name with
  | none =>
    have absent := absent_iff.mp present
    constructor
    · intro same
      cases same
      exact .absent absent
    · intro has
      cases has with
      | yes gives => exact absurd gives (absent _)
      | no gives => exact absurd gives (absent _)
      | absent => rfl
  | some text =>
    have gives := present?_eq_some.mp present
    constructor
    · intro same
      dsimp only at same
      split at same
      · rename_i word
        cases same
        exact .yes gives word
      · split at same
        · rename_i word
          cases same
          exact .no gives word
        · cases same
    · intro has
      cases has with
      | yes given word =>
        rw [given.unique gives] at word
        simp only [word, if_true]
      | no given word =>
        rw [given.unique gives] at word
        simp [word]
      | absent absent => exact absurd gives (absent text)

theorem flagOr_eq_error {standard : Bool} {error : OptionError} :
    properties.flagOr key.name standard = .error error ↔
      ∃ text, properties.Gives key text ∧ text.map Char.toLower ≠ "true" ∧
        text.map Char.toLower ≠ "false" ∧
          error = .invalid key.name text "expected `true` or `false`" := by
  simp only [← present?_eq_some, flagOr]
  cases properties.present? key.name with
  | none => simp
  | some text =>
    by_cases yes : text.map Char.toLower = "true"
    · simp [yes]
    · by_cases no : text.map Char.toLower = "false"
      · simp [no]
      · simp only [if_neg yes, if_neg no, Except.error.injEq, Option.some.injEq, exists_eq_left']
        exact ⟨fun same => ⟨yes, no, same.symm⟩, fun fault => fault.2.2.symm⟩

end Properties
end CheckpointSink
