import Tenancy.Number.Shortest

/-!
# Values in log directives

A directive may ask for a field with a value. What looks like a truth value or a number is one,
and is shown in its plainest form; everything else is a pattern.
-/

namespace Tenancy.Log

/-- A value that a field has to have. -/
inductive Value
  | bool (value : Bool)
  /-- A binary number, or none if it is infinite. -/
  | float (negative : Bool) (value : Option Binary64)
  | notANumber
  | belowZero (magnitude : Nat)
  | natural (value : Nat)
  | pattern (text : List Char)
  deriving DecidableEq, Repr

namespace Value

/-! ### Reading -/

/-- A sign, and what stands after it. -/
def sign : List Char → Bool × List Char
  | '-' :: rest => (true, rest)
  | '+' :: rest => (false, rest)
  | cs => (false, cs)

/-- Reads an exponent, or nothing. -/
def exponent? : List Char → Option Int
  | [] => some 0
  | c :: rest =>
    if c = 'e' ∨ c = 'E' then
      let (negative, digits) := sign rest
      (Text.digits? digits).map fun (n : Nat) => if negative then -(n : Int) else n
    else none

/-- Reads digits with a point before, between or after them or none, and an exponent: the number
that the digits form, and the power of ten that it is multiplied by. -/
def decimal? (cs : List Char) : Option (Nat × Int) := do
  let whole := cs.takeWhile Char.isDigit
  let rest := cs.dropWhile Char.isDigit
  let (fraction, rest) := match rest with
    | '.' :: rest => (rest.takeWhile Char.isDigit, rest.dropWhile Char.isDigit)
    | _ => ([], rest)
  let digits ← Text.digits? (whole ++ fraction)
  let e ← exponent? rest
  return (digits, e - fraction.length)

/-- The binary number nearest to `digits * 10 ^ e`, if it is in range. -/
def nearest (negative : Bool) (digits : Nat) (e : Int) : Option Binary64 :=
  let places := (Text.decimal digits).length + e
  if digits = 0 ∨ places < -400 then Binary64.round negative 0 1
  else if 400 < places then none
  else Binary64.round negative (digits * Binary64.tenTo e.toNat)
      (Binary64.tenTo (-e).toNat)

/-- Reads a binary number, infinity or the word for what is no number. -/
def float? (cs : List Char) : Option Value :=
  let (negative, magnitude) := sign cs
  let word := String.ofList (magnitude.map Char.toLower)
  if word = "nan" then some .notANumber
  else if word = "inf" ∨ word = "infinity" then some (.float negative none)
  else (decimal? magnitude).map fun (digits, e) => .float negative (nearest negative digits e)

/-- Reads a negative integer of 64 bits. -/
def negative? : List Char → Option Value
  | '-' :: digits => ((Text.digits? digits).filter (· ≤ 9223372036854775808)).map .belowZero
  | _ => none

/-- Reads a value. -/
def parse (cs : List Char) : Value :=
  if cs = "true".toList then .bool true
  else if cs = "false".toList then .bool false
  else
    ((Text.natural? Text.maxWord cs).map natural).or (negative? cs) |>.or (float? cs)
      |>.getD (.pattern cs)

/-! ### Showing -/

/-- A binary number in positional notation, with a fraction only if it has one. -/
def positional (x : Binary64) : List Char :=
  let d := x.shortest
  let shown := Text.decimal d.digits
  let places := (-d.exponent).toNat
  if 0 ≤ d.exponent then shown ++ List.replicate d.exponent.toNat '0'
  else if places < shown.length then
    shown.take (shown.length - places) ++ '.' :: shown.drop (shown.length - places)
  else '0' :: '.' :: List.replicate (places - shown.length) '0' ++ shown

/-- The text of a value. -/
def text : Value → List Char
  | .bool value => (if value then "true" else "false").toList
  | .float negative value =>
    (if negative then ['-'] else []) ++ (value.elim "inf".toList positional)
  | .notANumber => "NaN".toList
  | .belowZero magnitude => Text.signed (-(magnitude : Int))
  | .natural value => Text.decimal value
  | .pattern text => text

/-! ### Order -/

/-- The place of a kind of value among the others. -/
def rank : Value → Nat
  | .bool _ => 0
  | .float _ _ => 1
  | .notANumber => 2
  | .belowZero _ => 3
  | .natural _ => 4
  | .pattern _ => 5

/-- Compares binary numbers by what they stand for, with the infinite ones at the two ends. -/
def compareFloats : Bool × Option Binary64 → Bool × Option Binary64 → Ordering
  | (s, some x), (t, some y) =>
    let signed (negative : Bool) (n : Nat) : Int := if negative then -(n : Int) else n
    let (a, b) := x.ratio
    let (c, d) := y.ratio
    compare (signed s (a * d)) (signed t (c * b))
  | (s, none), (t, none) => compare t s
  | (s, none), (_, some _) => if s then .lt else .gt
  | (_, some _), (t, none) => if t then .gt else .lt

/-- Compares values: by kind first, and within a kind by what they stand for. -/
def compareValues : Value → Value → Ordering
  | .bool a, .bool b => compare a b
  | .float s a, .float t b => compareFloats (s, a) (t, b)
  | .belowZero a, .belowZero b => compare b a
  | .natural a, .natural b => compare a b
  | .pattern a, .pattern b => compare a b
  | a, b => compare a.rank b.rank

end Value

end Tenancy.Log
