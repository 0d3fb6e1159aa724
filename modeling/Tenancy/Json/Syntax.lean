import Tenancy.Json.Basic
import Tenancy.Text.Decimal

/-!
# JSON texts

A JSON text is read in two steps. The first, in this module, checks the grammar and keeps what was
written: the digits of a number, whether a string names half of a surrogate pair, all members of
an object in their order. The second, in `Json.Value`, asks for values and refuses what has none.
A part of a text that nobody asks for has to be grammatical and no more.
-/

namespace Tenancy.Json

/-- A number as it is written: its digits before the point, after the point, and in the exponent,
where there are any. -/
structure Numeral where
  negative : Bool
  whole : List Char
  fraction : Option (List Char)
  exponent : Option (Bool × List Char)
  deriving DecidableEq, Repr, Inhabited

/-- What is written in a JSON text. A string is `none` if one of its escapes names half of a
surrogate pair alone. -/
inductive Syntax
  | null
  | bool (value : Bool)
  | number (numeral : Numeral)
  | string (value : Option String)
  | array (items : List Syntax)
  | object (members : List (Option String × Syntax))
  deriving Repr, Inhabited

namespace Syntax

/-! ### White space, words and numbers -/

/-- White space between the parts of a text. -/
def isSpace (c : Char) : Bool :=
  c = ' ' || c = '\n' || c = '\t' || c = '\r'

/-- The text from its first part on. -/
def skipSpace (cs : List Char) : List Char := cs.dropWhile isSpace

/-- A nonempty run of digits, and the rest. -/
def digits? (cs : List Char) : Option (List Char × List Char) :=
  match cs.takeWhile Char.isDigit with
  | [] => none
  | run => some (run, cs.dropWhile Char.isDigit)

/-- The digits before the point: a zero alone, or digits that do not start with zero. -/
def whole? : List Char → Option (List Char × List Char)
  | '0' :: rest =>
    match rest with
    | [] => some (['0'], [])
    | c :: _ => if c.isDigit then none else some (['0'], rest)
  | cs => digits? cs

/-- The digits after a point, if there is one. -/
def fraction? : List Char → Option (Option (List Char) × List Char)
  | '.' :: rest => (digits? rest).map fun (run, rest) => (some run, rest)
  | cs => some (none, cs)

/-- The sign and the digits of an exponent, if there is one. -/
def exponent? (cs : List Char) : Option (Option (Bool × List Char) × List Char) :=
  let read (negative : Bool) (rest : List Char) :=
    (digits? rest).map fun (run, rest) => (some (negative, run), rest)
  let signed : List Char → Option (Option (Bool × List Char) × List Char)
    | '+' :: rest => read false rest
    | '-' :: rest => read true rest
    | rest => read false rest
  match cs with
  | 'e' :: rest => signed rest
  | 'E' :: rest => signed rest
  | _ => some (none, cs)

/-- A number without its sign. -/
def unsigned? (negative : Bool) (cs : List Char) : Option (Numeral × List Char) := do
  let (whole, cs) ← whole? cs
  let (fraction, cs) ← fraction? cs
  let (exponent, cs) ← exponent? cs
  return (⟨negative, whole, fraction, exponent⟩, cs)

/-! ### Strings -/

/-- The value of a hexadecimal digit. -/
def hexDigit? (c : Char) : Option Nat :=
  if c.isDigit then some (c.toNat - 48)
  else if 'a' ≤ c ∧ c ≤ 'f' then some (c.toNat - 87)
  else if 'A' ≤ c ∧ c ≤ 'F' then some (c.toNat - 55)
  else none

/-- The number that four hexadecimal digits write, and the rest. -/
def hexWord? : List Char → Option (Nat × List Char)
  | a :: b :: c :: d :: rest => do
    let a ← hexDigit? a
    let b ← hexDigit? b
    let c ← hexDigit? c
    let d ← hexDigit? d
    return (((a * 16 + b) * 16 + c) * 16 + d, rest)
  | _ => none

/-- The character that a letter stands for after a backslash. -/
def shortEscape? : Char → Option Char
  | '"' => some '"'
  | '\\' => some '\\'
  | '/' => some '/'
  | 'b' => some '\x08'
  | 'f' => some '\x0c'
  | 'n' => some '\n'
  | 'r' => some '\r'
  | 't' => some '\t'
  | _ => none

/-- One part of a string: a character, or a code unit that is half of a surrogate pair. -/
inductive Piece
  | char (c : Char)
  | surrogate (unit : Nat)
  deriving DecidableEq, Repr

/-- The piece that a code unit stands for. -/
def Piece.ofUnit (unit : Nat) : Piece :=
  if 0xd800 ≤ unit ∧ unit < 0xe000 then .surrogate unit else .char (Char.ofNat unit)

/-- The text of the pieces, where two halves of a pair in order make one character; `none` if a
half stands alone. -/
def join? : List Piece → Option (List Char)
  | [] => some []
  | .char c :: rest => (join? rest).map (c :: ·)
  | .surrogate high :: .surrogate low :: rest =>
    if high < 0xdc00 ∧ 0xdc00 ≤ low then
      (join? rest).map (Char.ofNat (0x10000 + (high - 0xd800) * 0x400 + (low - 0xdc00)) :: ·)
    else none
  | .surrogate _ :: _ => none

/-- The pieces of a string from after its first quotation mark to its last, and the rest. -/
def pieces? : List Char → Option (List Piece × List Char)
  | [] => none
  | '"' :: rest => some ([], rest)
  | '\\' :: 'u' :: a :: b :: c :: d :: rest => do
    let (unit, _) ← hexWord? [a, b, c, d]
    let (pieces, rest) ← pieces? rest
    return (.ofUnit unit :: pieces, rest)
  | '\\' :: c :: rest => do
    let c ← shortEscape? c
    let (pieces, rest) ← pieces? rest
    return (.char c :: pieces, rest)
  | c :: rest => do
    if c.toNat < 0x20 ∨ c = '\\' then none
    let (pieces, rest) ← pieces? rest
    return (.char c :: pieces, rest)

/-- A string after its first quotation mark. -/
def string? (cs : List Char) : Option (Option String × List Char) :=
  (pieces? cs).map fun (pieces, rest) => ((join? pieces).map String.ofList, rest)

/-! ### Values -/

mutual

/-- A value and the rest of the text. Each value, item and member takes one unit of `fuel`, so the
length of the text is enough for all of them. -/
def value? : Nat → List Char → Option (Syntax × List Char)
  | 0, _ => none
  | fuel + 1, cs =>
    match skipSpace cs with
    | 'n' :: 'u' :: 'l' :: 'l' :: rest => some (.null, rest)
    | 't' :: 'r' :: 'u' :: 'e' :: rest => some (.bool true, rest)
    | 'f' :: 'a' :: 'l' :: 's' :: 'e' :: rest => some (.bool false, rest)
    | '"' :: rest => (string? rest).map fun (s, rest) => (.string s, rest)
    | '-' :: rest => (unsigned? true rest).map fun (n, rest) => (.number n, rest)
    | '[' :: rest =>
      match skipSpace rest with
      | ']' :: rest => some (.array [], rest)
      | rest => (items? fuel rest).map fun (items, rest) => (.array items, rest)
    | '\x7b' :: rest =>
      match skipSpace rest with
      | '\x7d' :: rest => some (.object [], rest)
      | rest => (members? fuel rest).map fun (members, rest) => (.object members, rest)
    | rest => (unsigned? false rest).map fun (n, rest) => (.number n, rest)

/-- One or more items of an array, and the rest after its end. -/
def items? : Nat → List Char → Option (List Syntax × List Char)
  | 0, _ => none
  | fuel + 1, cs => do
    let (item, rest) ← value? fuel cs
    match skipSpace rest with
    | ']' :: rest => return ([item], rest)
    | ',' :: rest =>
      let (items, rest) ← items? fuel rest
      return (item :: items, rest)
    | _ => none

/-- One or more members of an object, and the rest after its end. -/
def members? : Nat → List Char → Option (List (Option String × Syntax) × List Char)
  | 0, _ => none
  | fuel + 1, cs => do
    let '"' :: rest := skipSpace cs | none
    let (key, rest) ← string? rest
    let ':' :: rest := skipSpace rest | none
    let (value, rest) ← value? fuel rest
    match skipSpace rest with
    | '\x7d' :: rest => return ([(key, value)], rest)
    | ',' :: rest =>
      let (members, rest) ← members? fuel rest
      return ((key, value) :: members, rest)
    | _ => none

end

/-- Reads a text that holds one value. -/
def ofText? (s : String) : Option Syntax :=
  let cs := s.toList
  match value? (cs.length + 1) cs with
  | some (value, rest) => if skipSpace rest = [] then some value else none
  | none => none

end Syntax

end Tenancy.Json
