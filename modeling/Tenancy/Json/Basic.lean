import Tenancy.Number.Binary64

/-!
# JSON values

The value of a JSON text. Numbers are integers of 64 bits, with or without sign, or binary numbers
of 64 bits. An object has its keys in ascending order, each once; `Json.ofMembers` makes one of
any list of members.
-/

namespace Tenancy

/-- A number of a JSON value. -/
inductive Json.Number
  | integer (value : Int)
  | float (value : Binary64)
  deriving DecidableEq, Repr, Inhabited

/-- A JSON value. -/
inductive Json
  | null
  | bool (value : Bool)
  | number (value : Json.Number)
  | string (value : String)
  | array (items : List Json)
  | object (members : List (String × Json))
  deriving Repr, Inhabited

namespace Json

/-- An integer as a value. -/
def ofNat (n : Nat) : Json := .number (.integer n)

/-- A value, or null. -/
def ofOption {α : Type} (f : α → Json) : Option α → Json
  | none => .null
  | some a => f a

/-- Puts a member into a list of members in ascending order of keys, in place of one with the same
key. -/
def putMember (key : String) (value : Json) : List (String × Json) → List (String × Json)
  | [] => [(key, value)]
  | (k, v) :: rest =>
    if key < k then (key, value) :: (k, v) :: rest
    else if key = k then (key, value) :: rest
    else (k, v) :: putMember key value rest

/-- The members with the last value of each key, in ascending order of keys. -/
def sortMembers (members : List (String × Json)) : List (String × Json) :=
  members.foldl (fun sorted m => putMember m.1 m.2 sorted) []

/-- The object with these members. -/
def ofMembers (members : List (String × Json)) : Json :=
  .object (sortMembers members)

/-- The value under a key of an object. -/
def member? (key : String) : Json → Option Json
  | .object members => members.lookup key
  | _ => none

/-- The least integer of 64 bits with sign. -/
def leastInteger : Int := -9223372036854775808

/-- The greatest integer of 64 bits without sign. -/
def greatestInteger : Int := 18446744073709551615

end Json

end Tenancy
