import ImageBatch.Text.Lowercase
import ImageBatch.Text.Unicode.Display

/-!
A text in double quotes in which every character can be seen.

The quote, the backslash and the common controls are written with a backslash. Characters that would not
show, or would join the one before them, are written by their code point in hexadecimal, between braces
after a backslash and a `u`.
-/

namespace ImageBatch.Text

open Unicode

def hexDigits (n : Nat) : List Char := Nat.toDigits 16 n

/-- The code point of a character, written out. -/
def codePointEscape (c : Char) : List Char :=
  ['\\', 'u', '\x7b'] ++ hexDigits c.toNat ++ ['\x7d']

/-- One character between the quotes. -/
def quotedChar (c : Char) : List Char :=
  if c = '\x00' then ['\\', '0']
  else if c = '\t' then ['\\', 't']
  else if c = '\r' then ['\\', 'r']
  else if c = '\n' then ['\\', 'n']
  else if c = '\\' then ['\\', '\\']
  else if c = '"' then ['\\', '"']
  else if inRanges attachedRanges c.toNat then codePointEscape c
  else if c != ' ' && inRanges unprintableRanges c.toNat then codePointEscape c
  else [c]

def quoted (s : String) : String :=
  String.ofList ('"' :: s.toList.flatMap quotedChar ++ ['"'])

end ImageBatch.Text
