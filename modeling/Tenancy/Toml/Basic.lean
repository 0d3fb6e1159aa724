/-!
# TOML values

The value of a TOML text. Fractional numbers and points in time are kept as they are written,
since nothing here computes with them.
-/

namespace Tenancy

/-- A TOML value. -/
inductive Toml
  | string (value : String)
  | integer (value : Int)
  | float (written : String)
  | boolean (value : Bool)
  | datetime (written : String)
  | array (items : List Toml)
  | table (members : List (String × Toml))
  deriving Repr, Inhabited

namespace Toml

/-- The value under a key of a table. -/
def member? (key : String) : Toml → Option Toml
  | .table members => members.lookup key
  | _ => none

/-- The least integer. -/
def leastInteger : Int := -9223372036854775808

/-- The greatest integer. -/
def greatestInteger : Int := 9223372036854775807

/-- Arrays and inline tables nest, and keys have parts, below this bound. -/
def depthLimit : Nat := 80

end Toml

end Tenancy
