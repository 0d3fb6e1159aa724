import Tenancy.Json.Basic
import Tenancy.Number.Shortest

/-!
# Writing JSON

The text of a value without white space. Strings escape the quotation mark, the backslash and the
control characters, those with a letter of their own by it and the others by their code point.
-/

namespace Tenancy.Json

/-- How a character is written inside a string. -/
def escapedChar (c : Char) : List Char :=
  if c = '"' then ['\\', '"']
  else if c = '\\' then ['\\', '\\']
  else if c = '\x08' then ['\\', 'b']
  else if c = '\x0c' then ['\\', 'f']
  else if c = '\n' then ['\\', 'n']
  else if c = '\r' then ['\\', 'r']
  else if c = '\t' then ['\\', 't']
  else if c.toNat < 0x20 then
    ['\\', 'u', '0', '0', Nat.digitChar (c.toNat / 16), Nat.digitChar (c.toNat % 16)]
  else [c]

/-- A string between quotation marks. -/
def writeString (s : String) : List Char :=
  '"' :: s.toList.flatMap escapedChar ++ ['"']

/-- Positional notation reaches from four zeros after the point to sixteen places before it. -/
def numberLayout : Binary64.Layout := ⟨-5, 16⟩

/-- The text of a number. -/
def writeNumber : Number → List Char
  | .integer n => Text.signed n
  | .float x => x.written numberLayout

mutual

/-- The characters of a value. -/
def write : Json → List Char
  | .null => ['n', 'u', 'l', 'l']
  | .bool true => ['t', 'r', 'u', 'e']
  | .bool false => ['f', 'a', 'l', 's', 'e']
  | .number n => writeNumber n
  | .string s => writeString s
  | .array [] => ['[', ']']
  | .array (item :: items) => '[' :: write item ++ writeItems items
  | .object [] => ['\x7b', '\x7d']
  | .object ((key, value) :: members) =>
    '\x7b' :: writeString key ++ ':' :: write value ++ writeMembers members

/-- The further items of an array, and its end. -/
def writeItems : List Json → List Char
  | [] => [']']
  | item :: items => ',' :: write item ++ writeItems items

/-- The further members of an object, and its end. -/
def writeMembers : List (String × Json) → List Char
  | [] => ['\x7d']
  | (key, value) :: members =>
    ',' :: writeString key ++ ':' :: write value ++ writeMembers members

end

/-- The text of a value. -/
def text (j : Json) : String :=
  String.ofList (write j)

end Tenancy.Json
