import Mathlib.Data.List.Basic
import Mathlib.Data.List.Induction
import Mathlib.Tactic.Ring

/-!
Numbers written in base sixteen with small letters. Among digit texts of one length the order of the
numbers is the order of the texts, since it is decided by the first digit in which they differ.
-/

namespace CheckpointSink.Number

/-- The digits in the order of their values. -/
def hexAlphabet : List Char := "0123456789abcdef".toList

def hexDigitValue (c : Char) : Nat := hexAlphabet.idxOf c

/-- The number that a digit text stands for, its first digit being the most significant. -/
def hexValue (digits : List Char) : Nat :=
  digits.foldl (fun value c => value * 16 + hexDigitValue c) 0

def AllHex (digits : List Char) : Prop :=
  ∀ c ∈ digits, c ∈ hexAlphabet

/-! Single digits -/

theorem digitChar_mem_hexAlphabet {n : Nat} (small : n < 16) : n.digitChar ∈ hexAlphabet :=
  (by decide : ∀ n < 16, n.digitChar ∈ hexAlphabet) n small

theorem hexDigitValue_digitChar {n : Nat} (small : n < 16) : hexDigitValue n.digitChar = n :=
  (by decide : ∀ n < 16, hexDigitValue n.digitChar = n) n small

theorem hexDigitValue_lt {c : Char} (digit : c ∈ hexAlphabet) : hexDigitValue c < 16 :=
  List.idxOf_lt_length_of_mem digit

theorem hexDigitValue_injective {first second : Char} (digit : first ∈ hexAlphabet)
    (same : hexDigitValue first = hexDigitValue second) : first = second :=
  (List.idxOf_inj digit).mp same

/-- The letters come after the decimal digits, both in value and as characters. -/
theorem hexAlphabet_ascends : hexAlphabet.Pairwise (· < ·) := by
  decide

theorem lt_of_hexDigitValue_lt {first second : Char} (one : first ∈ hexAlphabet)
    (other : second ∈ hexAlphabet) (less : hexDigitValue first < hexDigitValue second) :
    first < second := by
  have ascends := List.pairwise_iff_getElem.mp hexAlphabet_ascends _ _
    (List.idxOf_lt_length_of_mem one) (List.idxOf_lt_length_of_mem other) less
  rwa [List.getElem_idxOf, List.getElem_idxOf] at ascends

/-! Digit texts -/

theorem hexValue_concat (digits : List Char) (c : Char) :
    hexValue (digits ++ [c]) = hexValue digits * 16 + hexDigitValue c := by
  rw [hexValue, List.foldl_append]
  rfl

theorem hexValue_append (digits more : List Char) :
    hexValue (digits ++ more) = hexValue digits * 16 ^ more.length + hexValue more := by
  induction more using List.reverseRecOn with
  | nil => simp [hexValue]
  | append_singleton more c ih =>
    rw [← List.append_assoc, hexValue_concat, hexValue_concat, ih, List.length_append,
      List.length_singleton, pow_succ]
    ring

theorem hexValue_cons (c : Char) (rest : List Char) :
    hexValue (c :: rest) = hexDigitValue c * 16 ^ rest.length + hexValue rest := by
  have single : hexValue [c] = hexDigitValue c := by
    change 0 * 16 + hexDigitValue c = hexDigitValue c
    omega
  rw [← List.singleton_append, hexValue_append, single]

theorem AllHex.tail {c : Char} {rest : List Char} (all : AllHex (c :: rest)) : AllHex rest :=
  fun other member => all other (List.mem_cons_of_mem c member)

theorem hexValue_cons_lt {rest : List Char} (low : hexValue rest < 16 ^ rest.length) (c : Char) :
    hexValue (c :: rest) < (hexDigitValue c + 1) * 16 ^ rest.length := by
  rw [hexValue_cons, Nat.succ_mul]
  omega

theorem hexValue_lt {digits : List Char} (all : AllHex digits) :
    hexValue digits < 16 ^ digits.length := by
  induction digits with
  | nil => decide
  | cons c rest ih =>
    have high : hexDigitValue c < 16 := hexDigitValue_lt (all c List.mem_cons_self)
    calc hexValue (c :: rest)
        < (hexDigitValue c + 1) * 16 ^ rest.length := hexValue_cons_lt (ih all.tail) c
      _ ≤ 16 * 16 ^ rest.length := Nat.mul_le_mul_right _ high
      _ = 16 ^ (c :: rest).length := by rw [List.length_cons, pow_succ, Nat.mul_comm]

/-- Leading zeros do not count. -/
theorem hexValue_replicate_zero (places : Nat) (digits : List Char) :
    hexValue (List.replicate places '0' ++ digits) = hexValue digits := by
  have zero : hexDigitValue '0' = 0 := by decide
  induction places with
  | zero => rfl
  | succ places ih =>
    rw [List.replicate_succ, List.cons_append, hexValue_cons, zero, ih]
    omega

/-- What a greater digit adds is not made up for by the digits after it. -/
theorem hexValue_lt_of_head_lt {first second : Char} {earlier later : List Char}
    (all : AllHex earlier) (sameLength : earlier.length = later.length)
    (less : hexDigitValue first < hexDigitValue second) :
    hexValue (first :: earlier) < hexValue (second :: later) := by
  calc hexValue (first :: earlier)
      < (hexDigitValue first + 1) * 16 ^ earlier.length := hexValue_cons_lt (hexValue_lt all) first
    _ ≤ hexDigitValue second * 16 ^ earlier.length := Nat.mul_le_mul_right _ less
    _ ≤ hexValue (second :: later) := by rw [hexValue_cons, sameLength]; omega

/-- Digit texts of one length are ordered as their numbers are. -/
theorem lt_of_hexValue_lt {first second : List Char} (sameLength : first.length = second.length)
    (one : AllHex first) (other : AllHex second) (less : hexValue first < hexValue second) :
    first < second := by
  induction first generalizing second with
  | nil =>
    rw [List.length_eq_zero_iff.mp sameLength.symm] at less
    omega
  | cons c rest ih =>
    obtain ⟨d, others, rfl⟩ := List.exists_cons_of_length_eq_add_one sameLength.symm
    have length : rest.length = others.length := Nat.succ.inj sameLength
    have digit := one c List.mem_cons_self
    rw [List.cons_lt_cons_iff]
    -- Where the first digits differ they decide on both sides, so the rest need not be ordered.
    rcases Nat.lt_trichotomy (hexDigitValue c) (hexDigitValue d) with lower | same | higher
    · exact .inl (lt_of_hexDigitValue_lt digit (other d List.mem_cons_self) lower)
    · rw [hexValue_cons, hexValue_cons, same, length] at less
      exact .inr ⟨hexDigitValue_injective digit same, ih length one.tail other.tail (by omega)⟩
    · have greater := hexValue_lt_of_head_lt other.tail length.symm higher
      omega

/-! The digits of a number -/

theorem allHex_toDigits (n : Nat) : AllHex (Nat.toDigits 16 n) := by
  induction n using Nat.strongRecOn with
  | ind n ih =>
    rcases Nat.lt_or_ge n 16 with small | large
    · rw [Nat.toDigits_of_lt_base small]
      simpa [AllHex] using digitChar_mem_hexAlphabet small
    · have last : n % 16 < 16 := Nat.mod_lt n (by decide)
      rw [Nat.toDigits_of_base_le (by decide) large]
      intro c member
      rcases List.mem_append.mp member with before | isLast
      · exact ih (n / 16) (by omega) c before
      · rw [List.mem_singleton.mp isLast]
        exact digitChar_mem_hexAlphabet last

theorem hexValue_toDigits (n : Nat) : hexValue (Nat.toDigits 16 n) = n := by
  induction n using Nat.strongRecOn with
  | ind n ih =>
    rcases Nat.lt_or_ge n 16 with small | large
    · rw [Nat.toDigits_of_lt_base small, ← List.nil_append [n.digitChar], hexValue_concat,
        hexDigitValue_digitChar small]
      exact Nat.zero_add n
    · have last : n % 16 < 16 := Nat.mod_lt n (by decide)
      rw [Nat.toDigits_of_base_le (by decide) large, hexValue_concat, ih (n / 16) (by omega),
        hexDigitValue_digitChar last]
      exact Nat.div_add_mod' n 16

end CheckpointSink.Number
