/-!
# Decimal numerals

Writing and reading the decimal digits of natural numbers. The digits themselves are those of
`Nat.toDigits 10`, so what is written here reads back by `Nat.ofDigitChars_ten_toDigits`.
-/

namespace Tenancy.Text

/-- The decimal digits of a number, without leading zeros. -/
def decimal (n : Nat) : List Char :=
  Nat.toDigits 10 n

/-- The decimal digits of a number, with leading zeros up to the given width. Widths above 65535, on
which formatting may fail, are not modelled: here they are widths like any other. -/
def padded (width n : Nat) : List Char :=
  List.replicate (width - (decimal n).length) '0' ++ decimal n

/-- The decimal digits of an integer, after a minus sign if it is negative. -/
def signed : Int → List Char
  | .ofNat n => decimal n
  | .negSucc n => '-' :: decimal (n + 1)

/-- As `padded`, where a minus sign counts as one place of the width. -/
def signedPadded (width : Nat) : Int → List Char
  | .ofNat n => padded width n
  | .negSucc n => '-' :: padded (width - 1) (n + 1)

/-- Reads one or more decimal digits. -/
def digits? (cs : List Char) : Option Nat :=
  if cs ≠ [] ∧ cs.all Char.isDigit then some (Nat.ofDigitChars 10 cs 0) else none

/-- Reads one or more decimal digits, after a plus sign or none, of a number up to `limit`. -/
def natural? (limit : Nat) (cs : List Char) : Option Nat :=
  let unsigned := match cs with
    | '+' :: rest => rest
    | _ => cs
  (digits? unsigned).filter (· ≤ limit)

/-- The largest number of 64 bits. -/
def maxWord : Nat := 18446744073709551615

end Tenancy.Text
