import CheckpointSink.Number.Binary64

/-!
Floating point numbers read from text: a sign, digits around an optional point and an optional power
of ten, or a word for infinity or for no number.
-/

namespace CheckpointSink.Number

inductive FloatReading where
  | finite (number : Binary64)
  | infinite (negative : Bool)
  | undefined
  deriving DecidableEq

def digitsValue (digits : List Char) : Nat :=
  digits.foldl (fun value c => value * 10 + (c.toNat - 48)) 0

/-- A run of digits with an optional sign, to the end of the text. -/
def readExponent? (text : List Char) : Option Int :=
  let digits := match text with
    | '+' :: rest => rest
    | '-' :: rest => rest
    | _ => text
  if digits.isEmpty || !digits.all Char.isDigit then none
  else if text.head? = some '-' then some (-(digitsValue digits : Int))
  else some (digitsValue digits)

/-- A decimal in the form digits, fraction and power of ten, the sign already taken off. -/
def readMagnitude? (text : List Char) : Option (Nat × Int) :=
  let whole := text.takeWhile Char.isDigit
  let afterWhole := text.dropWhile Char.isDigit
  let pointed := afterWhole.head? = some '.'
  let fraction := if pointed then (afterWhole.drop 1).takeWhile Char.isDigit else []
  let rest := if pointed then (afterWhole.drop 1).dropWhile Char.isDigit else afterWhole
  let digits := digitsValue (whole ++ fraction)
  if whole.isEmpty && fraction.isEmpty then none
  else match rest with
    | [] => some (digits, -(fraction.length : Int))
    | 'e' :: exponent => (readExponent? exponent).map (fun e => (digits, e - fraction.length))
    | 'E' :: exponent => (readExponent? exponent).map (fun e => (digits, e - fraction.length))
    | _ => none

def readUnsigned? (negative : Bool) (text : List Char) : Option FloatReading :=
  let lower := text.map Char.toLower
  if lower = "inf".toList || lower = "infinity".toList then some (.infinite negative)
  else if lower = "nan".toList then some .undefined
  else (readMagnitude? text).map fun (digits, exponent) =>
    match Binary64.ofDecimal? negative digits exponent with
    | some number => .finite number
    | none => .infinite negative

def readFloat? : List Char → Option FloatReading
  | '+' :: rest => readUnsigned? false rest
  | '-' :: rest => readUnsigned? true rest
  | text => readUnsigned? false text

end CheckpointSink.Number
