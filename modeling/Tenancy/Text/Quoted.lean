import Tenancy.Text.Hidden

/-!
# Quoted texts

A diagnostic shows a text between quotation marks. A quotation mark and a backslash inside it are
written after a backslash, the usual controls by their letters, and every other hidden character
by its code point in braces.
-/

namespace Tenancy.Text

/-- How one character is written between quotation marks. -/
def quotedChar (c : Char) : List Char :=
  if c = '"' then ['\\', '"']
  else if c = '\\' then ['\\', '\\']
  else if c = '\n' then ['\\', 'n']
  else if c = '\r' then ['\\', 'r']
  else if c = '\t' then ['\\', 't']
  else if c = '\x00' then ['\\', '0']
  else if isHidden c then ['\\', 'u', '\x7b'] ++ Nat.toDigits 16 c.toNat ++ ['\x7d']
  else [c]

/-- A text between quotation marks. -/
def quoted (s : String) : String :=
  String.ofList ('"' :: s.toList.flatMap quotedChar ++ ['"'])

end Tenancy.Text
