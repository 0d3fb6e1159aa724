import Tenancy.Record
import Tenancy.Toml.Basic

/-!
# TOML as a data format

Records are tables, or arrays that hold the fields in order; items after the last field are passed
over, and so are keys with other names. An alternative is named by a string, or by a table whose
one key has that name and no content. A point in time is a table with one key of a private name,
so as a record it has no field.
-/

namespace Tenancy.Toml

/-- Whether a value holds nothing. -/
def isHollow : Toml → Bool
  | .table [] => true
  | .array [] => true
  | _ => false

/-- The text of a string. -/
def text? : Toml → Option String
  | .string s => some s
  | _ => none

/-- A natural number up to a limit. -/
def natural? (limit : Nat) : Toml → Option Nat
  | .integer (.ofNat n) => if n ≤ limit then some n else none
  | _ => none

/-- The name of an alternative. -/
def choice? : Toml → Option String
  | .string s => some s
  | .table [(name, value)] => if value.isHollow then some name else none
  | _ => none

/-- The fields of a record. -/
def record? (names : List String) : Toml → Option (Record Toml)
  | .table members => some ⟨members.filter (names.contains ·.1), false⟩
  | .array items => some ⟨names.zip items, true⟩
  | .datetime _ => some ⟨[], false⟩
  | _ => none

instance : Source Toml where
  isNull _ := false
  text? := text?
  natural? := natural?
  choice? := choice?
  record? := record?

end Tenancy.Toml
