import CheckpointSink.Text.Blank
import Mathlib.Data.List.TakeWhile

/-!
What is left of a text without the blanks at its ends. It is the one part of the text that has
nothing but blanks around it and none at its own ends.
-/

namespace CheckpointSink.Text

def AllBlank (text : List Char) : Prop :=
  ∀ c ∈ text, isBlank c = true

/-- A part of a value without blanks at its ends, all else of the value being blank. -/
structure Trims (value text : List Char) : Prop where
  around : ∃ before after, value = before ++ text ++ after ∧ AllBlank before ∧ AllBlank after
  first : ∀ c, text.head? = some c → isBlank c = false
  last : ∀ c, text.getLast? = some c → isBlank c = false

theorem trimStart_append {before : List Char} (blank : AllBlank before) (text : List Char) :
    trimStart (before ++ text) = trimStart text :=
  List.dropWhile_append_of_pos blank

theorem trimStart_eq_self {text : List Char} (first : ∀ c, text.head? = some c → isBlank c = false) :
    trimStart text = text := by
  cases text with
  | nil => rfl
  | cons c rest => exact List.dropWhile_cons_of_neg (by simp [first c rfl])

theorem trimStart_eq_nil {text : List Char} (blank : AllBlank text) : trimStart text = [] :=
  List.dropWhile_eq_nil_iff.mpr blank

theorem trimEnd_eq (text : List Char) : trimEnd text = (trimStart text.reverse).reverse := rfl

theorem trimEnd_append {after : List Char} (blank : AllBlank after) (text : List Char) :
    trimEnd (text ++ after) = trimEnd text := by
  have reversed : AllBlank after.reverse := fun c member => blank c (List.mem_reverse.mp member)
  rw [trimEnd_eq, List.reverse_append, trimStart_append reversed, trimEnd_eq]

theorem trimEnd_eq_self {text : List Char}
    (last : ∀ c, text.getLast? = some c → isBlank c = false) : trimEnd text = text := by
  rw [trimEnd_eq, trimStart_eq_self, List.reverse_reverse]
  intro c
  rw [List.head?_reverse]
  exact last c

theorem Trims.trim_eq {value text : List Char} (trims : Trims value text) : trim value = text := by
  obtain ⟨⟨before, after, rfl, blankBefore, blankAfter⟩, first, last⟩ := trims
  rw [trim, List.append_assoc, trimStart_append blankBefore]
  cases text with
  | nil =>
    rw [List.nil_append, trimStart_eq_nil blankAfter]
    rfl
  | cons c rest =>
    have kept : trimStart (c :: rest ++ after) = c :: rest ++ after := trimStart_eq_self first
    rw [kept, trimEnd_append blankAfter, trimEnd_eq_self last]

theorem not_blank_of_head?_trimStart {text : List Char} {c : Char}
    (first : (trimStart text).head? = some c) : isBlank c = false := by
  have stops := List.head?_dropWhile_not isBlank text
  rw [trimStart] at first
  rw [first] at stops
  exact stops

/-- The blanks that are left out, and what is left. -/
theorem trimStart_parts (text : List Char) :
    ∃ before, text = before ++ trimStart text ∧ AllBlank before :=
  ⟨text.takeWhile isBlank, List.takeWhile_append_dropWhile.symm, fun _ member =>
    List.mem_takeWhile_imp member⟩

theorem trimEnd_parts (text : List Char) :
    ∃ after, text = trimEnd text ++ after ∧ AllBlank after := by
  obtain ⟨before, split, blank⟩ := trimStart_parts text.reverse
  refine ⟨before.reverse, ?_, fun c member => blank c (List.mem_reverse.mp member)⟩
  rw [trimEnd_eq, ← List.reverse_append, ← split, List.reverse_reverse]

theorem trims_trim (value : List Char) : Trims value (trim value) := by
  obtain ⟨before, start, blankBefore⟩ := trimStart_parts value
  obtain ⟨after, rest, blankAfter⟩ := trimEnd_parts (trimStart value)
  refine ⟨⟨before, after, ?_, blankBefore, blankAfter⟩, ?_, ?_⟩
  · rw [trim, List.append_assoc, ← rest]
    exact start
  · intro c first
    refine @not_blank_of_head?_trimStart value c ?_
    rw [rest, List.head?_append]
    change (trimEnd (trimStart value)).head? = some c at first
    rw [first]
    rfl
  · intro c last
    rw [trim, trimEnd_eq, List.getLast?_reverse] at last
    exact not_blank_of_head?_trimStart last

theorem trim_eq_iff {value text : List Char} : trim value = text ↔ Trims value text := by
  constructor
  · rintro rfl
    exact trims_trim value
  · exact Trims.trim_eq

theorem trim_eq_nil {value : List Char} : trim value = [] ↔ AllBlank value := by
  rw [trim_eq_iff]
  constructor
  · rintro ⟨⟨before, after, rfl, blankBefore, blankAfter⟩, -, -⟩
    intro c member
    rw [List.append_nil] at member
    exact (List.mem_append.mp member).elim (blankBefore c) (blankAfter c)
  · intro blank
    exact ⟨⟨value, [], by simp, blank, nofun⟩, nofun, nofun⟩

/-- More blanks around a value make no difference. -/
theorem trim_padded {before after : List Char} (blankBefore : AllBlank before)
    (blankAfter : AllBlank after) (value : List Char) :
    trim (before ++ value ++ after) = trim value := by
  obtain ⟨⟨earlier, later, split, blankEarlier, blankLater⟩, first, last⟩ := trims_trim value
  refine trim_eq_iff.mpr ⟨⟨before ++ earlier, later ++ after, ?_, ?_, ?_⟩, first, last⟩
  · calc before ++ value ++ after
        = before ++ (earlier ++ trim value ++ later) ++ after := by rw [← split]
      _ = before ++ earlier ++ trim value ++ (later ++ after) := by simp only [List.append_assoc]
  · exact fun c member => (List.mem_append.mp member).elim (blankBefore c) (blankEarlier c)
  · exact fun c member => (List.mem_append.mp member).elim (blankLater c) (blankAfter c)

end CheckpointSink.Text
