import Tenancy.Json.Value
import Tenancy.Record

/-!
# JSON as a data format

Records are objects, or arrays that hold the fields in order. A field must not occur twice; a
member with another name is passed over, whatever its value. An alternative is named by a string,
or by an object whose one member has that name and the value null.
-/

namespace Tenancy.Json.Syntax

/-- The string that is written. -/
def text? : Syntax → Option String
  | .string s => s
  | _ => none

/-- The natural number that is written, without sign, point and exponent. -/
def natural? (limit : Nat) : Syntax → Option Nat
  | .number n =>
    match n.number? with
    | some (.integer (.ofNat value)) => if value ≤ limit then some value else none
    | _ => none
  | _ => none

/-- The name of an alternative. -/
def choice? : Syntax → Option String
  | .string s => s
  | .object [(name, .null)] => name
  | _ => none

/-- The members with one of the names, if all keys are whole and none of the names is repeated. -/
def namedMembers? (names : List String) :
    List (Option String × Syntax) → Option (List (String × Syntax))
  | [] => some []
  | (key, value) :: rest => do
    let key ← key
    let found ← namedMembers? names rest
    if names.contains key then
      if found.any (·.1 == key) then none else return (key, value) :: found
    else return found

/-- The fields of a record. -/
def record? (names : List String) : Syntax → Option (Record Syntax)
  | .object members => (namedMembers? names members).map (⟨·, false⟩)
  | .array items =>
    if items.length ≤ names.length then some ⟨names.zip items, true⟩ else none
  | _ => none

instance : Source Syntax where
  isNull
    | .null => true
    | _ => false
  text? := text?
  natural? := natural?
  choice? := choice?
  record? := record?

end Tenancy.Json.Syntax
