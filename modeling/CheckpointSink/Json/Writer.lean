import CheckpointSink.Json.Value
import CheckpointSink.Number.Layout

/-!
The compact text of a JSON value: no blanks, and in strings only the quotation mark, the reverse
solidus and the controls below the space are escaped.
-/

namespace CheckpointSink.Json

open CheckpointSink.Number

def hexDigit (n : Nat) : Char :=
  Nat.digitChar n

def escapeControl (c : Char) : List Char :=
  ['\\', 'u', '0', '0', hexDigit (c.toNat / 16), hexDigit (c.toNat % 16)]

def escapeChar (c : Char) : List Char :=
  if c = '"' then ['\\', '"']
  else if c = '\\' then ['\\', '\\']
  else if c = '\x08' then ['\\', 'b']
  else if c = '\x0c' then ['\\', 'f']
  else if c = '\n' then ['\\', 'n']
  else if c = '\r' then ['\\', 'r']
  else if c = '\t' then ['\\', 't']
  else if c.toNat < 32 then escapeControl c
  else [c]

/-- The characters between the quotation marks and the closing one. -/
def stringBody : List Char → List Char
  | [] => ['"']
  | c :: rest => escapeChar c ++ stringBody rest

def stringText (value : String) : List Char :=
  '"' :: stringBody value.toList

namespace Value

mutual

def text : Value → List Char
  | null => ['n', 'u', 'l', 'l']
  | bool true => ['t', 'r', 'u', 'e']
  | bool false => ['f', 'a', 'l', 's', 'e']
  | integer value => intDigits value
  | float value => Layout.plain.text value
  | string value => stringText value
  | array [] => ['[', ']']
  | array (item :: rest) => '[' :: text item ++ itemsText rest
  | object [] => ['\x7b', '\x7d']
  | object ((name, value) :: rest) =>
    '\x7b' :: stringText name ++ ':' :: text value ++ membersText rest

/-- The further items and the closing bracket. -/
def itemsText : List Value → List Char
  | [] => [']']
  | item :: rest => ',' :: text item ++ itemsText rest

/-- The further members and the closing brace. -/
def membersText : List (String × Value) → List Char
  | [] => ['\x7d']
  | (name, value) :: rest =>
    ',' :: stringText name ++ ':' :: text value ++ membersText rest

end

def compact (value : Value) : String :=
  String.ofList value.text

end Value
end CheckpointSink.Json
