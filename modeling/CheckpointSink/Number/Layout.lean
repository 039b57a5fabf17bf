import CheckpointSink.Number.Decimal
import CheckpointSink.Number.Shortest

/-!
The text of a decimal: positional near one, with an exponent far from it.
-/

namespace CheckpointSink.Number

/-- Where positional notation ends. The exponents are those of the first power of ten above the
number. -/
structure Layout where
  leastPositional : Int
  greatestPositional : Int

/-- Positional from `1e-5` to below `1e16`. -/
def Layout.plain : Layout := ⟨-4, 16⟩

def stripTrailingZeros (digits : List Char) : List Char :=
  (digits.reverse.dropWhile (· = '0')).reverse

def positional (digits : List Char) (places : Int) : List Char :=
  if places ≤ 0 then
    ['0', '.'] ++ List.replicate (-places).toNat '0' ++ digits
  else if (digits.length : Int) ≤ places then
    digits ++ List.replicate (places.toNat - digits.length) '0' ++ ['.', '0']
  else digits.take places.toNat ++ ['.'] ++ digits.drop places.toNat

def exponential (digits : List Char) (places : Int) : List Char :=
  let exponent := places - 1
  let tail := digits.drop 1
  digits.take 1 ++ (if tail.isEmpty then [] else '.' :: tail) ++ ['e'] ++
    (if exponent < 0 then ['-'] else ['+']) ++ natDigits exponent.natAbs

def Layout.magnitude (layout : Layout) (value : Decimal) : List Char :=
  if value.digits = 0 then ['0', '.', '0']
  else
    let written := natDigits value.digits
    let places := value.exponent + written.length
    let digits := stripTrailingZeros written
    if layout.leastPositional ≤ places ∧ places ≤ layout.greatestPositional then
      positional digits places
    else exponential digits places

/-- The sign is written for a negative zero too. -/
def Layout.text (layout : Layout) (number : Binary64) : List Char :=
  (if number.negative then ['-'] else []) ++ layout.magnitude number.shortest

end CheckpointSink.Number
