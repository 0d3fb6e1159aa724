/-!
# Binary numbers of 64 bits

Finite numbers of the binary format of 64 bits, in exact integer arithmetic: every operation is
the exact result rounded once, to the nearest number, and to the even one of two.
-/

namespace Tenancy

/-- The finite number `± significand * 2 ^ exponent`. Numbers made by `round` are in normal form:
the significand has 53 bits, or fewer with the least exponent. -/
structure Binary64 where
  negative : Bool
  significand : Nat
  exponent : Int
  deriving DecidableEq, Repr, Inhabited

namespace Binary64

/-- A power of two. -/
def twoTo (n : Nat) : Nat := Nat.pow 2 n

/-- A power of ten. -/
def tenTo (n : Nat) : Nat := Nat.pow 10 n

/-- The least significand of 53 bits. -/
def halfRange : Nat := 4503599627370496

/-- The least exponent of a significand. -/
def leastExponent : Int := -1074

/-- The greatest exponent of a significand. -/
def greatestExponent : Int := 971

/-- The quotient rounded to the nearest integer, and to the even one of two. -/
def roundDiv (num den : Nat) : Nat :=
  let quotient := num / den
  let rest := num % den
  if 2 * rest < den then quotient
  else if den < 2 * rest then quotient + 1
  else quotient + quotient % 2

/-- The numerator and denominator of `num / den / 2 ^ e`. -/
def scaled (num den : Nat) (e : Int) : Nat × Nat :=
  if 0 ≤ e then (num, den * twoTo e.toNat) else (num * twoTo (-e).toNat, den)

/-- The exponent with which the significand of `num / den` has 53 bits. -/
def fittingExponent (num den : Nat) : Int :=
  let guess : Int := (num.log2 : Int) - den.log2 - 52
  let (n, d) := scaled num den guess
  if n < d * halfRange then guess - 1 else guess

/-- The number nearest to `± num / den`, unless it is out of range. -/
def round (negative : Bool) (num den : Nat) : Option Binary64 :=
  if num = 0 then some ⟨negative, 0, leastExponent⟩
  else
    let e := max (fittingExponent num den) leastExponent
    let (n, d) := scaled num den e
    let significand := roundDiv n d
    let (significand, e) :=
      if significand = 2 * halfRange then (halfRange, e + 1) else (significand, e)
    if greatestExponent < e then none else some ⟨negative, significand, e⟩

/-- The magnitude as a numerator and a denominator. -/
def ratio (x : Binary64) : Nat × Nat :=
  if 0 ≤ x.exponent then (x.significand * twoTo x.exponent.toNat, 1)
  else (x.significand, twoTo (-x.exponent).toNat)

/-- Whether the number is zero, of either sign. -/
def isZero (x : Binary64) : Bool := x.significand = 0

/-- The product. -/
def mul (x y : Binary64) : Option Binary64 :=
  let (a, b) := x.ratio
  let (c, d) := y.ratio
  round (x.negative != y.negative) (a * c) (b * d)

/-- The quotient by a number other than zero. -/
def div (x y : Binary64) : Option Binary64 :=
  let (a, b) := x.ratio
  let (c, d) := y.ratio
  round (x.negative != y.negative) (a * d) (b * c)

/-- A natural number of 64 bits. -/
def ofNat (n : Nat) : Binary64 :=
  (round false n 1).getD default

/-- The power of ten with an exponent up to 308. -/
def powerOfTen (k : Nat) : Binary64 :=
  (round false (tenTo k) 1).getD default

/-- The number with the sign given. -/
def withSign (negative : Bool) (x : Binary64) : Binary64 :=
  { x with negative }

end Binary64

end Tenancy
