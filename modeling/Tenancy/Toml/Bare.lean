import Tenancy.Number.Binary64
import Tenancy.Text.Decimal
import Tenancy.Toml.Basic

/-!
# Bare values of a TOML text

Values without quotes or brackets: booleans, integers, fractional numbers and points in time. Each
is a run of letters, digits and a few signs; only a date and a time may have a space between them.
-/

namespace Tenancy.Toml.Bare

/-- The characters of a bare value. -/
def isBare (c : Char) : Bool :=
  c.isAlphanum || c = '+' || c = '-' || c = '.' || c = '_' || c = ':'

/-! ### Integers -/

/-- The digits of a run in which single underscores may stand between two digits. -/
def digits? (isDigit : Char → Bool) : List Char → Option (List Char)
  | [] => none
  | [c] => if isDigit c then some [c] else none
  | c :: '_' :: rest => if isDigit c then (digits? isDigit rest).map (c :: ·) else none
  | c :: rest => if isDigit c then (digits? isDigit rest).map (c :: ·) else none

/-- The digits of a decimal integer, which start with zero only if they are a zero alone. -/
def whole? (cs : List Char) : Option (List Char) :=
  (digits? Char.isDigit cs).filter fun ds => ds = ['0'] || ds.head? ≠ some '0'

/-- The sign of a number, and its text without the sign. -/
def sign : List Char → Bool × List Char
  | '-' :: rest => (true, rest)
  | '+' :: rest => (false, rest)
  | rest => (false, rest)

/-- The value of a digit in a base up to sixteen. -/
def digitValue (c : Char) : Nat :=
  if c.isDigit then c.toNat - 48 else c.toLower.toNat - 87

/-- Whether a character is a digit in a base up to sixteen. -/
def isDigitOf (base : Nat) (c : Char) : Bool :=
  (c.isDigit || ('a' ≤ c.toLower && c.toLower ≤ 'f')) && digitValue c < base

/-- The integer that digits write in a base. -/
def inBase? (base : Nat) (cs : List Char) : Option Int :=
  (digits? (isDigitOf base) cs).map fun ds =>
    (ds.foldl (fun n c => n * base + digitValue c) 0 : Nat)

/-- An integer of 64 bits: decimal with an optional sign, or without sign in base 16, 8 or 2. -/
def integer? (cs : List Char) : Option Int :=
  let value : Option Int := match cs with
    | '0' :: 'x' :: rest => inBase? 16 rest
    | '0' :: 'o' :: rest => inBase? 8 rest
    | '0' :: 'b' :: rest => inBase? 2 rest
    | _ =>
      let (negative, rest) := sign cs
      (whole? rest).map fun ds =>
        let n : Int := Nat.ofDigitChars 10 ds 0
        if negative then -n else n
  value.filter fun n => leastInteger ≤ n ∧ n ≤ greatestInteger

/-! ### Fractional numbers -/

/-- Whether `digits * 10 ^ exponent` is within the range of binary numbers. -/
def inRange (digits : List Char) (exponent : Int) : Bool :=
  let n := Nat.ofDigitChars 10 digits 0
  let magnitude : Int := (Text.decimal n).length + exponent
  n = 0 || magnitude ≤ 300
    || (magnitude ≤ 310
      && (Binary64.round false (n * Binary64.tenTo exponent.toNat)
        (Binary64.tenTo (-exponent).toNat)).isSome)

/-- Splits at the first character that satisfies `p`, which is left out. -/
def splitAt (p : Char → Bool) (cs : List Char) : List Char × Option (List Char) :=
  match cs.dropWhile (!p ·) with
  | [] => (cs, none)
  | _ :: rest => (cs.takeWhile (!p ·), some rest)

/-- Whether a text is a number with a fraction, an exponent or both. Too large a number is none,
unless it is negative. -/
def isDecimalFloat (cs : List Char) : Bool :=
  let (negative, cs) := sign cs
  let (mantissa, exponent) := splitAt (fun c => c = 'e' || c = 'E') cs
  let (whole, fraction) := splitAt (· = '.') mantissa
  let parts : Option (List Char × Int) := do
    let ds ← whole? whole
    let fs ← match fraction with
      | none => some []
      | some f => digits? Char.isDigit f
    let e ← match exponent with
      | none => some (0 : Int)
      | some e =>
        let (below, e) := sign e
        (digits? Char.isDigit e).map fun ds =>
          let n : Int := Nat.ofDigitChars 10 ds 0
          if below then -n else n
    return (ds ++ fs, e - fs.length)
  match parts with
  | none => false
  | some (digits, exponent) =>
    (fraction.isSome || cs.length ≠ mantissa.length) && (negative || inRange digits exponent)

/-- Whether a text is a fractional number. -/
def isFloat (cs : List Char) : Bool :=
  let (_, unsigned) := sign cs
  unsigned = ['i', 'n', 'f'] || unsigned = ['n', 'a', 'n'] || isDecimalFloat cs

/-! ### Points in time -/

/-- The number of a run of digits alone. -/
def field? (cs : List Char) : Option Nat := Text.digits? cs

/-- The days of a month. -/
def daysOf (year month : Nat) : Nat :=
  if month = 2 then
    if year % 4 = 0 ∧ (year % 100 ≠ 0 ∨ year % 400 = 0) then 29 else 28
  else if month = 4 ∨ month = 6 ∨ month = 9 ∨ month = 11 then 30 else 31

/-- Whether a text is a date. -/
def isDate : List Char → Bool
  | [a, b, c, d, '-', e, f, '-', g, h] =>
    match field? [a, b, c, d], field? [e, f], field? [g, h] with
    | some year, some month, some day =>
      1 ≤ month && month ≤ 12 && 1 ≤ day && day ≤ daysOf year month
    | _, _, _ => false
  | _ => false

/-- Whether two digits write a number up to a bound. -/
def isUpTo (bound : Nat) (a b : Char) : Bool :=
  (field? [a, b]).any (· ≤ bound)

/-- Whether a text is empty or the offset of a time from universal time. -/
def isOffset : List Char → Bool
  | [] => true
  | ['Z'] => true
  | ['z'] => true
  | [s, a, b, ':', c, d] => (s = '+' || s = '-') && isUpTo 23 a b && isUpTo 59 c d
  | _ => false

/-- Whether a text is a time of day, and then satisfies `rest` after its seconds and their
fraction. -/
def isTime (rest : List Char → Bool) : List Char → Bool
  | a :: b :: ':' :: c :: d :: ':' :: e :: f :: cs =>
    isUpTo 23 a b && isUpTo 59 c d && isUpTo 60 e f &&
      match cs with
      | '.' :: cs =>
        (cs.takeWhile Char.isDigit) ≠ [] && rest (cs.dropWhile Char.isDigit)
      | cs => rest cs
  | _ => false

/-- Whether a text is a date, a time of day, or both with `T` between them. -/
def isDatetime (cs : List Char) : Bool :=
  isDate cs || isTime (· = []) cs ||
    (isDate (cs.take 10) &&
      match cs.drop 10 with
      | c :: rest => (c = 'T' || c = 't') && isTime isOffset rest
      | [] => false)

/-! ### Values -/

/-- The value of a run of bare characters. -/
def value? (cs : List Char) : Option Toml :=
  if cs = ['t', 'r', 'u', 'e'] then some (.boolean true)
  else if cs = ['f', 'a', 'l', 's', 'e'] then some (.boolean false)
  else if isDatetime cs then some (.datetime (String.ofList cs))
  else if isFloat cs then some (.float (String.ofList cs))
  else (integer? cs).map .integer

/-- Reads a bare value. After a date a space and a time may follow. -/
def read? (cs : List Char) : Option (Toml × List Char) :=
  let run := cs.takeWhile isBare
  let rest := cs.dropWhile isBare
  match isDate run, rest with
  | true, ' ' :: c :: more =>
    if c.isDigit then
      let time := (c :: more).takeWhile isBare
      if isTime isOffset time then
        some (.datetime (String.ofList (run ++ 'T' :: time)), (c :: more).dropWhile isBare)
      else none
    else some (.datetime (String.ofList run), rest)
  | _, _ => (value? run).map fun v => (v, rest)

end Tenancy.Toml.Bare
