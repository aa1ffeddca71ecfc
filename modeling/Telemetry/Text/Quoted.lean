import Telemetry.Text.Unprintable

/-!
# Quoted text

A text between quotes for diagnostics: a backslash stands before quotes, backslashes and the letters of the common
controls, and every other character that does not show is written by its number.
-/

namespace Telemetry.Text

def byNumber (c : Char) : List Char := "\\u\x7b".toList ++ Nat.toDigits 16 c.toNat ++ ['\x7d']

def quotedChar (c : Char) : List Char :=
  if c = '\x00' then ['\\', '0']
  else if c = '\t' then ['\\', 't']
  else if c = '\n' then ['\\', 'n']
  else if c = '\r' then ['\\', 'r']
  else if c = '"' ∨ c = '\\' then ['\\', c]
  else if isUnprintable c then byNumber c
  else [c]

def quoted (text : String) : String := String.ofList ('"' :: text.toList.flatMap quotedChar ++ ['"'])

end Telemetry.Text
