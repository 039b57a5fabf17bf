/-!
Integers of a fixed width read from decimal text. The digits are taken from the left, and the first
fault met is the one reported: a character that is no digit, or a digit with which the number leaves
the range of its width.
-/

namespace CheckpointSink.Number

structure Width where
  signed : Bool
  bits : Nat
  deriving DecidableEq

namespace Width

def unsigned (bits : Nat) : Width := ⟨false, bits⟩

def twosComplement (bits : Nat) : Width := ⟨true, bits⟩

def least (width : Width) : Int :=
  if width.signed then -(Nat.pow 2 (width.bits - 1) : Int) else 0

def greatest (width : Width) : Int :=
  if width.signed then (Nat.pow 2 (width.bits - 1) : Int) - 1 else (Nat.pow 2 width.bits : Int) - 1

end Width

inductive IntegerFault where
  | invalidDigit
  | tooLarge
  | tooSmall
  deriving DecidableEq

def IntegerFault.message : IntegerFault → String
  | invalidDigit => "invalid digit found in string"
  | tooLarge => "number too large to fit in target type"
  | tooSmall => "number too small to fit in target type"

def digitValue (c : Char) : Int :=
  (c.toNat : Int) - 48

/-- The digits are added one by one to what was read before them, or subtracted from it. -/
def readDigits (width : Width) (negative : Bool) : Int → List Char → Except IntegerFault Int
  | value, [] => .ok value
  | value, c :: rest =>
    if c.isDigit then
      let next := if negative then value * 10 - digitValue c else value * 10 + digitValue c
      if next < width.least then .error .tooSmall
      else if width.greatest < next then .error .tooLarge
      else readDigits width negative next rest
    else .error .invalidDigit

/-- At least one digit is needed. -/
def readMagnitude (width : Width) (negative : Bool) (digits : List Char) :
    Except IntegerFault Int :=
  if digits.isEmpty then .error .invalidDigit else readDigits width negative 0 digits

/-- A plus sign may stand before the digits, and before those of a signed width also a minus. -/
def readInteger (width : Width) : List Char → Except IntegerFault Int
  | '+' :: digits => readMagnitude width false digits
  | '-' :: digits =>
    if width.signed then readMagnitude width true digits
    else readMagnitude width false ('-' :: digits)
  | digits => readMagnitude width false digits

end CheckpointSink.Number
