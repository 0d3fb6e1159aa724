import Tenancy.Json.Syntax
import Tenancy.Number.Shortest

/-!
# The value of a JSON text

What a text means: integers within 64 bits are integers and all other numbers binary numbers,
strings are whole characters, a repeated key has its last value, and arrays and objects nest no
deeper than a bound.
-/

namespace Tenancy.Json

namespace Numeral

/-- Reads digits into a significand of 64 bits. Digits that no longer fit are left, and their
number is given back. -/
def accumulate (significand : Nat) : List Char → Nat × Nat
  | [] => (significand, 0)
  | c :: rest =>
    let next := significand * 10 + (c.toNat - 48)
    if next ≤ Text.maxWord then accumulate next rest else (significand, rest.length + 1)

/-- The greatest power of ten in range. -/
def largestPower : Binary64 := .powerOfTen 308

/-- `x / 10 ^ k`, by one division for each 308 places. -/
def scaleDown (x : Binary64) (k : Nat) : Option Binary64 :=
  if k ≤ 308 then x.div (.powerOfTen k)
  else if x.isZero then some x
  else
    (x.div largestPower).bind fun y => scaleDown y (k - 308)
termination_by k
decreasing_by omega

/-- The binary number of a significand and a power of ten: the significand is rounded, and the
result of the multiplication or division by the power again. It has to be in range. -/
def combine (significand : Nat) (exponent : Int) : Option Binary64 :=
  let x := Binary64.ofNat significand
  if exponent < 0 then scaleDown x (-exponent).toNat
  else if x.isZero then some x
  else if exponent ≤ 308 then x.mul (.powerOfTen exponent.toNat)
  else none

/-- The power of ten that the exponent of a numeral adds. -/
def exponentValue (n : Numeral) : Int :=
  match n.exponent with
  | none => 0
  | some (false, digits) => Nat.ofDigitChars 10 digits 0
  | some (true, digits) => -(Nat.ofDigitChars 10 digits 0 : Int)

/-- The magnitude of a numeral as a binary number. -/
def magnitude? (n : Numeral) : Option Binary64 :=
  let (significand, left) := accumulate 0 n.whole
  let fraction := n.fraction.getD []
  let (significand, unread) := accumulate significand fraction
  combine significand ((left : Int) - (fraction.length - unread : Nat) + n.exponentValue)

/-- The number of a numeral. One without point and exponent is an integer if it has 64 bits, but
minus zero is a binary number. -/
def number? (n : Numeral) : Option Number :=
  let whole := Nat.ofDigitChars 10 n.whole 0
  let value : Int := if n.negative then -(whole : Int) else whole
  if n.fraction = none ∧ n.exponent = none ∧ ¬ (n.negative ∧ whole = 0)
      ∧ leastInteger ≤ value ∧ value ≤ greatestInteger then
    some (.integer value)
  else n.magnitude?.map fun x => .float (x.withSign n.negative)

/-- The numeral of an integer. -/
def ofInt (n : Int) : Numeral :=
  ⟨n < 0, Text.decimal n.natAbs, none, none⟩

/-- A numeral that has the value of a binary number. -/
def ofBinary64 (x : Binary64) : Numeral :=
  let d := x.shortest
  ⟨x.negative, Text.decimal d.digits, none,
    some (d.exponent < 0, Text.decimal d.exponent.natAbs)⟩

end Numeral

/-- The greatest depth to which arrays and objects of a text nest. -/
def depthLimit : Nat := 127

namespace Syntax

mutual

/-- The value of a text, with arrays and objects up to the given depth. -/
def toJson? : Nat → Syntax → Option Json
  | _, .null => some .null
  | _, .bool b => some (.bool b)
  | _, .number n => n.number?.map .number
  | _, .string s => s.map .string
  | depth, .array items =>
    if depth = 0 then none else (itemsToJson? (depth - 1) items).map .array
  | depth, .object members =>
    if depth = 0 then none else (membersToJson? (depth - 1) members).map ofMembers

/-- The values of the items of an array. -/
def itemsToJson? : Nat → List Syntax → Option (List Json)
  | _, [] => some []
  | depth, item :: items => do
    let value ← toJson? depth item
    let values ← itemsToJson? depth items
    return value :: values

/-- The values of the members of an object. -/
def membersToJson? : Nat → List (Option String × Syntax) → Option (List (String × Json))
  | _, [] => some []
  | depth, (key, item) :: members => do
    let key ← key
    let value ← toJson? depth item
    let values ← membersToJson? depth members
    return (key, value) :: values

end

end Syntax

/-- Reads a text that holds one value. -/
def ofText? (s : String) : Option Json :=
  (Syntax.ofText? s).bind (Syntax.toJson? depthLimit)

mutual

/-- A text with the given value. -/
def toSyntax : Json → Syntax
  | .null => .null
  | .bool b => .bool b
  | .number (.integer n) => .number (.ofInt n)
  | .number (.float x) => .number (.ofBinary64 x)
  | .string s => .string (some s)
  | .array items => .array (itemsToSyntax items)
  | .object members => .object (membersToSyntax members)

/-- The items of an array as they are written. -/
def itemsToSyntax : List Json → List Syntax
  | [] => []
  | item :: items => toSyntax item :: itemsToSyntax items

/-- The members of an object as they are written. -/
def membersToSyntax : List (String × Json) → List (Option String × Syntax)
  | [] => []
  | (key, value) :: members => (some key, toSyntax value) :: membersToSyntax members

end

end Tenancy.Json
