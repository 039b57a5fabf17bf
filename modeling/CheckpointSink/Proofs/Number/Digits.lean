import CheckpointSink.Number.Decimal
import CheckpointSink.Number.FloatText

/-!
The decimal digits of a number, read back as a number.
-/

namespace CheckpointSink.Number

theorem natDigits_of_lt {n : Nat} (small : n < 10) : natDigits n = [n.digitChar] :=
  Nat.toDigits_of_lt_base small

theorem natDigits_of_le {n : Nat} (large : 10 ≤ n) :
    natDigits n = natDigits (n / 10) ++ [(n % 10).digitChar] :=
  Nat.toDigits_of_base_le (by decide) large

theorem natDigits_ne_nil (n : Nat) : natDigits n ≠ [] :=
  Nat.toDigits_ne_nil

theorem isDigit_of_mem_natDigits {n : Nat} {c : Char} (member : c ∈ natDigits n) :
    c.isDigit = true :=
  Nat.isDigit_of_mem_toDigits (by decide) (by decide) member

theorem digitsValue_concat (digits : List Char) (c : Char) :
    digitsValue (digits ++ [c]) = digitsValue digits * 10 + (c.toNat - 48) := by
  rw [digitsValue, List.foldl_append]
  rfl

@[simp]
theorem digitsValue_natDigits (n : Nat) : digitsValue (natDigits n) = n := by
  induction n using Nat.strongRecOn with
  | ind n ih =>
    rcases Nat.lt_or_ge n 10 with small | large
    · rw [natDigits_of_lt small, ← List.nil_append [n.digitChar], digitsValue_concat,
        Nat.toNat_digitChar_sub_48_of_lt_ten small]
      exact Nat.zero_add n
    · have last : n % 10 < 10 := Nat.mod_lt n (by decide)
      rw [natDigits_of_le large, digitsValue_concat, ih (n / 10) (by omega),
        Nat.toNat_digitChar_sub_48_of_lt_ten last]
      exact Nat.div_add_mod' n 10

/-- Only the digits of zero begin with a zero. -/
theorem head?_natDigits {n : Nat} (positive : 0 < n) : (natDigits n).head? ≠ some '0' := by
  induction n using Nat.strongRecOn with
  | ind n ih =>
    rcases Nat.lt_or_ge n 10 with small | large
    · rw [natDigits_of_lt small]
      simpa using Nat.ne_of_gt positive
    · have first := ih (n / 10) (by omega) (by omega)
      rw [natDigits_of_le large]
      cases digits : natDigits (n / 10) with
      | nil => exact absurd digits (natDigits_ne_nil _)
      | cons c rest => rwa [digits] at first

end CheckpointSink.Number
