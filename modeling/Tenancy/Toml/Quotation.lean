/-!
# Strings of a TOML text

The four kinds of strings: basic and literal ones, each on one line or on several. Basic strings
have escapes. In a string of several lines each line ends in a line feed, a line end right after
the opening quotes is not part of it, and in a basic one a backslash at the end of a line takes
away all white space after it.
-/

namespace Tenancy.Toml.Quotation

/-- White space inside a line. -/
def isSpace (c : Char) : Bool := c = ' ' || c = '\t'

/-- The characters of a comment: all but the controls other than the tab. -/
def isPlain (c : Char) : Bool := c = '\t' || (0x20 ≤ c.toNat && c.toNat ≠ 0x7f)

/-- The value of a hexadecimal digit. -/
def hexDigit? (c : Char) : Option Nat :=
  if c.isDigit then some (c.toNat - 48)
  else if 'a' ≤ c ∧ c ≤ 'f' then some (c.toNat - 87)
  else if 'A' ≤ c ∧ c ≤ 'F' then some (c.toNat - 55)
  else none

/-- The number that hexadecimal digits write. -/
def hexNumber? (cs : List Char) : Option Nat :=
  cs.foldlM (fun n c => (hexDigit? c).map (n * 16 + ·)) 0

/-- The character with the code point that hexadecimal digits write. -/
def codePoint? (cs : List Char) : Option Char :=
  (hexNumber? cs).bind fun n => if n.isValidChar then some (Char.ofNat n) else none

/-- The character that a letter stands for after a backslash. -/
def shortEscape? : Char → Option Char
  | 'b' => some '\x08'
  | 't' => some '\t'
  | 'n' => some '\n'
  | 'f' => some '\x0c'
  | 'r' => some '\r'
  | '"' => some '"'
  | '\\' => some '\\'
  | _ => none

/-- A basic string of one line after its first quotation mark, and the rest of the text. -/
def basic? : List Char → Option (List Char × List Char)
  | [] => none
  | '"' :: rest => some ([], rest)
  | '\\' :: 'u' :: a :: b :: c :: d :: rest => do
    let char ← codePoint? [a, b, c, d]
    let (cs, rest) ← basic? rest
    return (char :: cs, rest)
  | '\\' :: 'U' :: a :: b :: c :: d :: e :: f :: g :: h :: rest => do
    let char ← codePoint? [a, b, c, d, e, f, g, h]
    let (cs, rest) ← basic? rest
    return (char :: cs, rest)
  | '\\' :: c :: rest => do
    let char ← shortEscape? c
    let (cs, rest) ← basic? rest
    return (char :: cs, rest)
  | c :: rest => do
    if !isPlain c ∨ c = '\\' then none
    let (cs, rest) ← basic? rest
    return (c :: cs, rest)

/-- A literal string of one line after its first quotation mark. -/
def literal? : List Char → Option (List Char × List Char)
  | [] => none
  | '\'' :: rest => some ([], rest)
  | c :: rest => do
    if !isPlain c then none
    let (cs, rest) ← literal? rest
    return (c :: cs, rest)

/-- The text after a line end at its start, if it has one there. -/
def afterLineEnd? : List Char → Option (List Char)
  | '\n' :: rest => some rest
  | '\r' :: '\n' :: rest => some rest
  | _ => none

/-- Whether nothing but white space stands before the next line end. -/
def endsLine (cs : List Char) : Bool :=
  (afterLineEnd? (cs.dropWhile isSpace)).isSome

/-- A basic string of several lines after its opening quotes and a line end there. While
`skipping`, white space and line ends are taken away. Up to two quotation marks may stand before
the closing ones. -/
def basicLines? (skipping : Bool) : List Char → Option (List Char × List Char)
  | [] => none
  | '"' :: '"' :: '"' :: '"' :: '"' :: rest => some (['"', '"'], rest)
  | '"' :: '"' :: '"' :: '"' :: rest => some (['"'], rest)
  | '"' :: '"' :: '"' :: rest => some ([], rest)
  | '\\' :: 'u' :: a :: b :: c :: d :: rest => do
    let char ← codePoint? [a, b, c, d]
    let (cs, rest) ← basicLines? false rest
    return (char :: cs, rest)
  | '\\' :: 'U' :: a :: b :: c :: d :: e :: f :: g :: h :: rest => do
    let char ← codePoint? [a, b, c, d, e, f, g, h]
    let (cs, rest) ← basicLines? false rest
    return (char :: cs, rest)
  | '\\' :: c :: rest =>
    if endsLine (c :: rest) then basicLines? true (c :: rest)
    else do
      let char ← shortEscape? c
      let (cs, rest) ← basicLines? false rest
      return (char :: cs, rest)
  | '\r' :: '\n' :: rest => do
    let (cs, rest) ← basicLines? skipping rest
    return (if skipping then cs else '\n' :: cs, rest)
  | c :: rest => do
    if (!isPlain c ∧ c ≠ '\n') ∨ c = '\\' then none
    if skipping ∧ (isSpace c ∨ c = '\n') then basicLines? true rest
    else
      let (cs, rest) ← basicLines? false rest
      return (c :: cs, rest)

/-- A literal string of several lines after its opening quotes and a line end there. -/
def literalLines? : List Char → Option (List Char × List Char)
  | [] => none
  | '\'' :: '\'' :: '\'' :: '\'' :: '\'' :: rest => some (['\'', '\''], rest)
  | '\'' :: '\'' :: '\'' :: '\'' :: rest => some (['\''], rest)
  | '\'' :: '\'' :: '\'' :: rest => some ([], rest)
  | '\r' :: '\n' :: rest => do
    let (cs, rest) ← literalLines? rest
    return ('\n' :: cs, rest)
  | c :: rest => do
    if !isPlain c ∧ c ≠ '\n' then none
    let (cs, rest) ← literalLines? rest
    return (c :: cs, rest)

/-- The text after a line end at its start, or the whole text. -/
def skipLineEnd (cs : List Char) : List Char := (afterLineEnd? cs).getD cs

/-- A string of any kind from its first quotation mark on; `none` also if the text does not start
with one. -/
def read? : List Char → Option (List Char × List Char)
  | '"' :: '"' :: '"' :: rest => basicLines? false (skipLineEnd rest)
  | '"' :: rest => basic? rest
  | '\'' :: '\'' :: '\'' :: rest => literalLines? (skipLineEnd rest)
  | '\'' :: rest => literal? rest
  | _ => none

end Tenancy.Toml.Quotation
