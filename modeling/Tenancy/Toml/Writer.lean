import Tenancy.Text.Decimal
import Tenancy.Toml.Basic

/-!
# Writing TOML

The text of a sequence of tables whose values are strings and integers. A string is written in the
first of these styles that needs no escapes: basic, literal, basic over several lines, literal over
several lines; and if none does, as a basic string with escapes.
-/

namespace Tenancy.Toml

/-! ### Strings -/

/-- What the choice of a style depends on. -/
structure Contents where
  singleQuotes : Nat
  doubleQuotes : Nat
  hasBackslash : Bool
  hasLineFeed : Bool
  hasControl : Bool
  deriving DecidableEq, Repr

/-- The length of the longest run of a character. -/
def longestRun (q : Char) : List Char → Nat
  | [] => 0
  | c :: rest => max ((c :: rest).takeWhile (· = q)).length (longestRun q rest)

/-- Whether a character is a control that no style shows as it is. -/
def isControl (c : Char) : Bool :=
  (c.toNat < 0x20 || c.toNat = 0x7f) && c ≠ '\t' && c ≠ '\n'

/-- What a string holds. -/
def Contents.ofList (cs : List Char) : Contents where
  singleQuotes := longestRun '\'' cs
  doubleQuotes := longestRun '"' cs
  hasBackslash := cs.contains '\\'
  hasLineFeed := cs.contains '\n'
  hasControl := cs.any isControl

/-- The styles of strings. -/
inductive Style
  | basic | literal | basicLines | literalLines
  deriving DecidableEq, Repr

/-- The style of a string. -/
def Contents.style (c : Contents) : Style :=
  if !c.hasControl && !c.hasBackslash && c.doubleQuotes = 0 && !c.hasLineFeed then .basic
  else if !c.hasControl && c.singleQuotes = 0 && !c.hasLineFeed then .literal
  else if !c.hasControl && !c.hasBackslash && c.doubleQuotes ≤ 2 then .basicLines
  else if !c.hasControl && c.singleQuotes ≤ 2 then .literalLines
  else if c.hasLineFeed then .basicLines
  else .basic

/-- An upper-case hexadecimal digit. -/
def hexDigit (n : Nat) : Char := (Nat.digitChar n).toUpper

/-- How a character other than a quotation mark is written in a basic string. -/
def escapedChar (lines : Bool) (c : Char) : List Char :=
  if c = '\x08' then ['\\', 'b']
  else if c = '\t' then ['\\', 't']
  else if c = '\n' then if lines then [c] else ['\\', 'n']
  else if c = '\x0c' then ['\\', 'f']
  else if c = '\r' then ['\\', 'r']
  else if c = '\\' then ['\\', '\\']
  else if c.toNat < 0x20 ∨ c.toNat = 0x7f then
    ['\\', 'u', '0', '0', hexDigit (c.toNat / 16), hexDigit (c.toNat % 16)]
  else [c]

/-- The body of a basic string. Over several lines up to two quotation marks in a row stay as they
are; `quotes` counts those just written. -/
def escaped (lines : Bool) (quotes : Nat) : List Char → List Char
  | [] => []
  | '"' :: rest =>
    if quotes < (if lines then 2 else 0) then '"' :: escaped lines (quotes + 1) rest
    else '\\' :: '"' :: escaped lines 0 rest
  | c :: rest => escapedChar lines c ++ escaped lines 0 rest

/-- A string in a style. Over several lines, a string with a line feed starts on a new line. -/
def Style.write (style : Style) (hasLineFeed : Bool) (cs : List Char) : List Char :=
  let start := if hasLineFeed then ['\n'] else []
  match style with
  | .basic => '"' :: escaped false 0 cs ++ ['"']
  | .literal => '\'' :: cs ++ ['\'']
  | .basicLines => ['"', '"', '"'] ++ start ++ escaped true 0 cs ++ ['"', '"', '"']
  | .literalLines => ['\'', '\'', '\''] ++ start ++ cs ++ ['\'', '\'', '\'']

/-- A string in the style that it calls for. -/
def writeString (s : String) : List Char :=
  let contents := Contents.ofList s.toList
  contents.style.write contents.hasLineFeed s.toList

/-! ### Tables -/

/-- The values that a table of settings holds. -/
inductive Scalar
  | string (value : String)
  | natural (value : Nat)
  deriving DecidableEq, Repr

/-- The text of a value; an integer has to be in range. -/
def Scalar.write? : Scalar → Option (List Char)
  | .string s => some (writeString s)
  | .natural n => if (n : Int) ≤ greatestInteger then some (Text.decimal n) else none

/-- A table with a header: its name, and its pairs in order. -/
structure Section where
  name : String
  pairs : List (String × Scalar)
  deriving DecidableEq, Repr

/-- A pair on a line of its own. -/
def writePair? (pair : String × Scalar) : Option (List Char) :=
  pair.2.write?.map fun value => pair.1.toList ++ [' ', '=', ' '] ++ value ++ ['\n']

/-- The header of a table and its pairs. Its name and keys are bare keys. -/
def Section.write? (s : Section) : Option (List Char) :=
  (s.pairs.mapM writePair?).map fun pairs =>
    '[' :: s.name.toList ++ [']', '\n'] ++ pairs.flatten

/-- The text of tables, with a blank line between two of them; none if an integer is out of
range. -/
def write? (sections : List Section) : Option String :=
  (sections.mapM Section.write?).map fun texts =>
    String.ofList ((texts.intersperse ['\n']).flatten)

end Tenancy.Toml
