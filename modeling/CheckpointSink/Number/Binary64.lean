/-!
Finite binary floating point numbers with 53 significant bits, and the rounding of an exact quotient
or of a decimal to the nearest of them. All arithmetic is on natural numbers.
-/

namespace CheckpointSink.Number

/-- The power, or one where the exponent is below zero. -/
def wholePower (base : Nat) (exponent : Int) : Nat :=
  Nat.pow base exponent.toNat

/-- The number `significand * 2 ^ exponent`, negated if so marked. The significand has 53 bits,
fewer only at the least exponent, so equal numbers of one sign have equal fields. -/
structure Binary64 where
  negative : Bool
  significand : Nat
  exponent : Int
  deriving DecidableEq

namespace Binary64

/-- A significand of 53 bits is at least this. -/
def leastFullSignificand : Nat := 0x10000000000000

/-- Every significand is below this. -/
def significandBound : Nat := 0x20000000000000

def leastExponent : Int := -1074

def greatestExponent : Int := 971

def zero (negative : Bool) : Binary64 :=
  ⟨negative, 0, leastExponent⟩

/-- The quotient rounded to an integer, a half to the even neighbour. -/
def roundHalfEven (numerator denominator : Nat) : Nat :=
  let quotient := numerator / denominator
  let remainder := numerator % denominator
  if denominator < 2 * remainder then quotient + 1
  else if 2 * remainder = denominator then quotient + quotient % 2
  else quotient

/-- The quotient divided by `2 ^ exponent`, again as numerator and denominator. -/
def rescale (numerator denominator : Nat) (exponent : Int) : Nat × Nat :=
  (numerator * wholePower 2 (-exponent), denominator * wholePower 2 exponent)

/-- The exponent that leaves 53 bits before the point, or the least one. -/
def exponentOf (numerator denominator : Nat) : Int :=
  let exponent := max leastExponent ((numerator.log2 : Int) - denominator.log2 - 53)
  let scaled := rescale numerator denominator exponent
  if scaled.1 / scaled.2 < significandBound then exponent else exponent + 1

/-- The nearest number to a quotient, or nothing beyond the greatest finite number. -/
def ofQuotient? (negative : Bool) (numerator denominator : Nat) : Option Binary64 :=
  let exponent := exponentOf numerator denominator
  let scaled := rescale numerator denominator exponent
  let rounded := roundHalfEven scaled.1 scaled.2
  let number : Binary64 :=
    if rounded = significandBound then ⟨negative, leastFullSignificand, exponent + 1⟩
    else ⟨negative, rounded, exponent⟩
  if number.exponent ≤ greatestExponent then some number else none

/-- A decimal whose first digit stands beyond this many places is out of range, and one whose first
digit stands below as many places after the point rounds to zero. -/
def decimalReach : Int := 400

/-- The nearest number to `digits * 10 ^ exponent`, or nothing beyond the greatest finite number. -/
def ofDecimal? (negative : Bool) (digits : Nat) (exponent : Int) : Option Binary64 :=
  let places := exponent + (Nat.toDigits 10 digits).length
  if digits = 0 ∨ places < -decimalReach then some (zero negative)
  else if decimalReach < places then none
  else ofQuotient? negative (digits * wholePower 10 exponent) (wholePower 10 (-exponent))

end Binary64
end CheckpointSink.Number
