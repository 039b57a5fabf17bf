/-!
Decimal digits of numbers, most significant first and without leading zeros.
-/

namespace CheckpointSink.Number

def natDigits (n : Nat) : List Char :=
  Nat.toDigits 10 n

def intDigits (n : Int) : List Char :=
  if n < 0 then '-' :: natDigits n.natAbs else natDigits n.natAbs

def natText (n : Nat) : String :=
  String.ofList (natDigits n)

def intText (n : Int) : String :=
  String.ofList (intDigits n)

end CheckpointSink.Number
