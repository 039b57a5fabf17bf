import CheckpointSink.Number.Binary64

/-!
The shortest decimal that reads back as a given floating point number. Grids of one, two and more
digits are tried in turn; on each grid only the two neighbours of the number can round to it, and
the first grid with such a neighbour gives the answer.
-/

namespace CheckpointSink.Number

/-- The number `digits * 10 ^ exponent`. -/
structure Decimal where
  digits : Nat
  exponent : Int
  deriving DecidableEq

namespace Binary64

/-- A decimal on the common scale of the comparisons with quarters of `2 ^ exponent`. -/
def decimalOnScale (value : Decimal) (exponent : Int) : Nat :=
  value.digits * wholePower 10 value.exponent * wholePower 2 (2 - exponent)

/-- Quarters of `2 ^ exponent` on the common scale with decimals of the exponent `places`. -/
def quartersOnScale (quarters : Nat) (exponent places : Int) : Nat :=
  quarters * wholePower 2 (exponent - 2) * wholePower 10 (-places)

/-- The distance to the next smaller number is halved where the exponent changes. -/
def lowerQuarters (number : Binary64) : Nat :=
  if number.significand = leastFullSignificand ∧ leastExponent < number.exponent then
    4 * number.significand - 1
  else 4 * number.significand - 2

def upperQuarters (number : Binary64) : Nat :=
  4 * number.significand + 2

/-- The decimal lies between the midpoints to the two neighbours, which belong to the number if its
significand is even. -/
def readsBack (number : Binary64) (value : Decimal) : Bool :=
  let lower := quartersOnScale number.lowerQuarters number.exponent value.exponent
  let upper := quartersOnScale number.upperQuarters number.exponent value.exponent
  let decimal := decimalOnScale value number.exponent
  if number.significand % 2 = 0 then lower ≤ decimal && decimal ≤ upper
  else lower < decimal && decimal < upper

/-- The number is below `10 ^ places`. -/
def isBelow (number : Binary64) (places : Int) : Bool :=
  quartersOnScale (4 * number.significand) number.exponent places <
    decimalOnScale ⟨1, places⟩ number.exponent

def raisePlaces (number : Binary64) : Nat → Int → Int
  | 0, places => places
  | steps + 1, places =>
    if number.isBelow places then places else raisePlaces number steps (places + 1)

/-- The least exponent of ten whose power is above the number. The start is at most two too small,
because `30103 / 100000` is the logarithm of two to five places. -/
def decimalPlaces (number : Binary64) : Int :=
  raisePlaces number 4
    (((number.significand.log2 : Int) + number.exponent) * 30103 / 100000 - 1)

/-- The nearer of two neighbouring decimals, the even one if they are equally near. -/
def nearer (number : Binary64) (lower : Decimal) : Decimal :=
  let exact := quartersOnScale (4 * number.significand) number.exponent lower.exponent
  let upper : Decimal := ⟨lower.digits + 1, lower.exponent⟩
  let below := exact - decimalOnScale lower number.exponent
  let above := decimalOnScale upper number.exponent - exact
  if below < above then lower
  else if above < below then upper
  else if lower.digits % 2 = 0 then lower else upper

/-- The best decimal of the grid that reads back, if there is one. -/
def onGrid? (number : Binary64) (exponent : Int) : Option Decimal :=
  let exact := quartersOnScale (4 * number.significand) number.exponent exponent
  let lower : Decimal := ⟨exact / decimalOnScale ⟨1, exponent⟩ number.exponent, exponent⟩
  let upper : Decimal := ⟨lower.digits + 1, exponent⟩
  match number.readsBack lower, number.readsBack upper with
  | true, true => some (number.nearer lower)
  | true, false => some lower
  | false, true => some upper
  | false, false => none

def firstGrid (number : Binary64) : Nat → Int → Option Decimal
  | 0, _ => none
  | tries + 1, exponent =>
    (number.onGrid? exponent).or (firstGrid number tries (exponent - 1))

/-- Seventeen digits always suffice. -/
def mostDigits : Nat := 17

/-- The shortest decimal that rounds to the number, the nearest of the shortest. -/
def shortest (number : Binary64) : Decimal :=
  if number.significand = 0 then ⟨0, 0⟩
  else (number.firstGrid mostDigits (number.decimalPlaces - 1)).getD ⟨0, 0⟩

end Binary64
end CheckpointSink.Number
