import CheckpointSink.Text.Printable

/-!
Text between quotation marks, with names for the common controls and code point numbers for every
other character that has no glyph of its own.
-/

namespace CheckpointSink.Text

def hexDigits (n : Nat) : List Char :=
  Nat.toDigits 16 n

/-- The code point in lowercase hexadecimal between braces. -/
def codePointEscape (c : Char) : List Char :=
  ['\\', 'u', '\x7b'] ++ hexDigits c.toNat ++ ['\x7d']

def quotedChar (c : Char) : List Char :=
  if c = '\x00' then ['\\', '0']
  else if c = '\t' then ['\\', 't']
  else if c = '\r' then ['\\', 'r']
  else if c = '\n' then ['\\', 'n']
  else if c = '"' then ['\\', '"']
  else if c = '\\' then ['\\', '\\']
  else if isHidden c then codePointEscape c
  else [c]

def quoted (text : String) : String :=
  String.ofList (['"'] ++ text.toList.flatMap quotedChar ++ ['"'])

end CheckpointSink.Text
