import Tenancy.Number.Binary64
import Tenancy.Text.Decimal

/-!
# The shortest decimal of a binary number

Among the decimals that round to a binary number, the one with the fewest digits, and of those the
nearest. A decimal has few digits if it is a multiple of a great power of ten, so the powers are
tried from the greatest down, and on each grid the two multiples around the number.
-/

namespace Tenancy.Binary64

/-- A decimal `digits * 10 ^ exponent`. -/
structure Decimal where
  digits : Nat
  exponent : Int
  deriving DecidableEq, Repr, Inhabited

/-- Compares `a * 10 ^ k` with `b * 2 ^ q`. -/
def compareScaled (a : Nat) (k : Int) (b : Nat) (q : Int) : Ordering :=
  compare (a * tenTo k.toNat * twoTo (-q).toNat) (b * twoTo q.toNat * tenTo (-k).toNat)

/-- Whether `digits * 10 ^ k` rounds to a nonzero number. The bounds lie half a unit above and
below, but only a quarter below a power of two; they count if the significand is even. -/
def roundsTo (x : Binary64) (digits : Nat) (k : Int) : Bool :=
  let q := x.exponent - 2
  let low := 4 * x.significand
    - (if x.significand = halfRange ∧ leastExponent < x.exponent then 1 else 2)
  let high := 4 * x.significand + 2
  let below := compareScaled digits k low q
  let above := compareScaled digits k high q
  if x.significand % 2 = 0 then below != .lt && above != .gt else below == .gt && above == .lt

/-- The decimal nearest to the number on the grid of multiples of `10 ^ k` that rounds to it, the
even one of two. -/
def onGrid? (x : Binary64) (k : Int) : Option Decimal :=
  let (num, den) := x.ratio
  let (num, den) := (num * tenTo (-k).toNat, den * tenTo k.toNat)
  let below := num / den
  let near := roundDiv num den
  let far := if near = below then below + 1 else below
  if near ≠ 0 ∧ x.roundsTo near k then some ⟨near, k⟩
  else if far ≠ 0 ∧ x.roundsTo far k then some ⟨far, k⟩
  else none

/-- The shortest decimal of the magnitude. Every number has one on the grid of its last place, so
the search from the greatest power of ten down to that place finds it. -/
def shortest (x : Binary64) : Decimal :=
  if x.isZero then ⟨0, 0⟩
  else ((List.range 640).findSome? fun (i : Nat) => x.onGrid? (309 - (i : Int))).getD ⟨0, 0⟩

/-- How a decimal is written: positionally if the point falls between the two bounds, counted in
places after the first digit, and otherwise with an exponent. -/
structure Layout where
  fewestPlaces : Int
  mostPlaces : Int
  deriving Repr

/-- The text of a number: the shortest digits, with a fraction of at least one digit in positional
notation, and after `e` in the other. -/
def written (layout : Layout) (x : Binary64) : List Char :=
  let sign := if x.negative then ['-'] else []
  let d := x.shortest
  let shown := Text.decimal d.digits
  let point : Int := shown.length + d.exponent
  let body :=
    if d.digits = 0 then ['0', '.', '0']
    else if layout.fewestPlaces < point ∧ point ≤ 0 then
      ['0', '.'] ++ List.replicate (-point).toNat '0' ++ shown
    else if 0 ≤ d.exponent ∧ point ≤ layout.mostPlaces then
      shown ++ List.replicate d.exponent.toNat '0' ++ ['.', '0']
    else if 0 < point ∧ point ≤ layout.mostPlaces then
      shown.take point.toNat ++ '.' :: shown.drop point.toNat
    else
      let exponent := 'e' :: Text.signed (point - 1)
      match shown with
      | [c] => c :: exponent
      | c :: rest => c :: '.' :: rest ++ exponent
      | [] => exponent
  sign ++ body

end Tenancy.Binary64
