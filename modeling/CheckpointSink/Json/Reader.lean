import CheckpointSink.Json.Value
import CheckpointSink.Number.FloatText
import CheckpointSink.Number.Integer

/-!
JSON text read into values. An integer between the least of 64 bits with sign and the greatest of 64
bits without is kept exactly; every other number is rounded to a floating point number, and so is a
zero with a minus sign.
-/

namespace CheckpointSink.Json

open CheckpointSink.Number

def isSpace (c : Char) : Bool :=
  c = ' ' || c = '\t' || c = '\n' || c = '\r'

def skipSpace (text : List Char) : List Char :=
  text.dropWhile isSpace

def hexValue? (c : Char) : Option Nat :=
  if c.isDigit then some (c.toNat - 48)
  else if 'a' ≤ c ∧ c ≤ 'f' then some (c.toNat - 87)
  else if 'A' ≤ c ∧ c ≤ 'F' then some (c.toNat - 55)
  else none

def hexUnit? (a b c d : Char) : Option Nat := do
  let a ← hexValue? a
  let b ← hexValue? b
  let c ← hexValue? c
  let d ← hexValue? d
  return ((a * 16 + b) * 16 + c) * 16 + d

def namedEscape? (c : Char) : Option Nat :=
  if c = '"' then some 34
  else if c = '\\' then some 92
  else if c = '/' then some 47
  else if c = 'b' then some 8
  else if c = 'f' then some 12
  else if c = 'n' then some 10
  else if c = 'r' then some 13
  else if c = 't' then some 9
  else none

/-- The code units of a string up to its closing quotation mark, and the text after it. -/
def readUnits? : List Char → Option (List Nat × List Char)
  | [] => none
  | '"' :: rest => some ([], rest)
  | '\\' :: 'u' :: a :: b :: c :: d :: rest =>
    match hexUnit? a b c d, readUnits? rest with
    | some unit, some (units, rest) => some (unit :: units, rest)
    | _, _ => none
  | '\\' :: c :: rest =>
    match namedEscape? c, readUnits? rest with
    | some unit, some (units, rest) => some (unit :: units, rest)
    | _, _ => none
  | c :: rest =>
    if c.toNat < 32 then none
    else match readUnits? rest with
      | some (units, rest) => some (c.toNat :: units, rest)
      | none => none

def isHighSurrogate (unit : Nat) : Bool :=
  0xd800 ≤ unit && unit < 0xdc00

def isLowSurrogate (unit : Nat) : Bool :=
  0xdc00 ≤ unit && unit < 0xe000

/-- A high surrogate and the low one after it are one character; neither stands alone. -/
def joinUnits? : List Nat → Option (List Char)
  | [] => some []
  | high :: low :: rest =>
    if isHighSurrogate high && isLowSurrogate low then
      (joinUnits? rest).map
        (Char.ofNat (0x10000 + (high - 0xd800) * 0x400 + (low - 0xdc00)) :: ·)
    else if isHighSurrogate high || isLowSurrogate high then none
    else (joinUnits? (low :: rest)).map (Char.ofNat high :: ·)
  | [unit] =>
    if isHighSurrogate unit || isLowSurrogate unit then none else some [Char.ofNat unit]

def readString? (text : List Char) : Option (String × List Char) :=
  match readUnits? text with
  | none => none
  | some (units, rest) => (joinUnits? units).map (fun chars => (String.ofList chars, rest))

def isNumberChar (c : Char) : Bool :=
  c.isDigit || c = '-' || c = '+' || c = '.' || c = 'e' || c = 'E'

def leastInteger : Int := (Width.twosComplement 64).least

def greatestInteger : Int := (Width.unsigned 64).greatest

def hasDigitFirst (text : List Char) : Bool :=
  text.head?.any Char.isDigit

/-- More than one digit may not begin with a zero. -/
def hasPlainStart (digits : List Char) : Bool :=
  match digits with
  | '0' :: rest => !hasDigitFirst rest
  | _ => hasDigitFirst digits

/-- A point is followed by a digit. -/
def hasPlainFraction (magnitude : List Char) : Bool :=
  match magnitude.dropWhile Char.isDigit with
  | '.' :: rest => hasDigitFirst rest
  | _ => true

def readFloatToken? (negative : Bool) (magnitude : List Char) : Option Value :=
  match readUnsigned? negative magnitude with
  | some (.finite number) => some (.float number)
  | _ => none

def readNumberToken? (token : List Char) : Option Value :=
  let negative := token.head? = some '-'
  let magnitude := if negative then token.drop 1 else token
  let value : Int := if negative then -(digitsValue magnitude : Int) else digitsValue magnitude
  if !hasPlainStart magnitude || !hasPlainFraction magnitude then none
  else if magnitude.all Char.isDigit && !(negative && value = 0) &&
      leastInteger ≤ value && value ≤ greatestInteger then
    some (.integer value)
  else readFloatToken? negative magnitude

def readNumber? (text : List Char) : Option (Value × List Char) :=
  (readNumberToken? (text.takeWhile isNumberChar)).map
    (fun value => (value, text.dropWhile isNumberChar))

mutual

/-- The first argument bounds the depth of the recursion, which no text exceeds by its length. -/
def readValue? : Nat → List Char → Option (Value × List Char)
  | 0, _ => none
  | depth + 1, text =>
    match skipSpace text with
    | 'n' :: 'u' :: 'l' :: 'l' :: rest => some (.null, rest)
    | 't' :: 'r' :: 'u' :: 'e' :: rest => some (.bool true, rest)
    | 'f' :: 'a' :: 'l' :: 's' :: 'e' :: rest => some (.bool false, rest)
    | '"' :: rest => (readString? rest).map (fun read => (.string read.1, read.2))
    | '[' :: rest =>
      match skipSpace rest with
      | ']' :: rest => some (.array [], rest)
      | _ => (readItems? depth rest).map (fun read => (.array read.1, read.2))
    | '\x7b' :: rest =>
      match skipSpace rest with
      | '\x7d' :: rest => some (.object [], rest)
      | _ => (readMembers? depth rest).map (fun read => (.object read.1, read.2))
    | other => readNumber? other

/-- One item, then a comma and further items or the closing bracket. -/
def readItems? : Nat → List Char → Option (List Value × List Char)
  | 0, _ => none
  | depth + 1, text =>
    match readValue? depth text with
    | none => none
    | some (item, rest) =>
      match skipSpace rest with
      | ',' :: rest => (readItems? depth rest).map (fun read => (item :: read.1, read.2))
      | ']' :: rest => some ([item], rest)
      | _ => none

/-- One member, then a comma and further members or the closing brace. -/
def readMembers? : Nat → List Char → Option (List (String × Value) × List Char)
  | 0, _ => none
  | depth + 1, text =>
    match skipSpace text with
    | '"' :: rest =>
      match readString? rest with
      | none => none
      | some (name, rest) =>
        match skipSpace rest with
        | ':' :: rest =>
          match readValue? depth rest with
          | none => none
          | some (value, rest) =>
            match skipSpace rest with
            | ',' :: rest =>
              (readMembers? depth rest).map (fun read => ((name, value) :: read.1, read.2))
            | '\x7d' :: rest => some ([(name, value)], rest)
            | _ => none
        | _ => none
    | _ => none

end

/-- One value with nothing but blanks around it. -/
def read? (text : List Char) : Option Value :=
  match readValue? (2 * text.length + 2) text with
  | some (value, rest) => if (skipSpace rest).isEmpty then some value else none
  | none => none

def Value.ofText? (text : String) : Option Value :=
  read? text.toList

end CheckpointSink.Json
