import Tenancy.Json.Basic
import Tenancy.Text.Blank

/-!
# Tenants

One tenant: its identity, the database it lives in, its status and its plan. Status and plan are
closed lists of names. A slug is the name of a tenant in addresses.
-/

namespace Tenancy

/-- The identifier that the directory gives to a tenant. -/
abbrev TenantId := String

/-! ### Status and plan -/

/-- Where a tenant stands in its life. Only an active one gets a pool. -/
inductive Status
  | active | suspended | deleted
  deriving DecidableEq, Repr, Inhabited

/-- What a tenant has subscribed to. -/
inductive Plan
  | standard | premium | enterprise
  deriving DecidableEq, Repr, Inhabited

/-- A text that names no status, or no plan. -/
inductive UnknownName
  | status (value : String)
  | plan (value : String)
  deriving DecidableEq, Repr

namespace UnknownName

/-- What the text was to name. -/
def kind : UnknownName → String
  | .status _ => "tenant status"
  | .plan _ => "tenant plan"

/-- The text as it was given. -/
def value : UnknownName → String
  | .status value => value
  | .plan value => value

/-- The text of the fault. -/
def message (e : UnknownName) : String :=
  "unknown " ++ e.kind ++ ": " ++ e.value

end UnknownName

namespace Status

/-- Every status. -/
def all : List Status := [.active, .suspended, .deleted]

/-- The name of a status. -/
def name : Status → String
  | .active => "active"
  | .suspended => "suspended"
  | .deleted => "deleted"

/-- The status with exactly this name. -/
def ofName? (name : String) : Option Status :=
  all.find? (·.name = name)

/-- The status that a text names, whatever white space is around it and whatever the case of its
letters. -/
def parse (s : String) : Except UnknownName Status :=
  (ofName? (Text.keyword s)).elim (.error (.status s)) .ok

/-- Whether a tenant with this status gets a pool. -/
def isActive (s : Status) : Bool := s = .active

@[simp]
theorem ofName?_name (s : Status) : ofName? s.name = some s := by
  cases s <;> decide

end Status

namespace Plan

/-- Every plan. -/
def all : List Plan := [.standard, .premium, .enterprise]

/-- The name of a plan. -/
def name : Plan → String
  | .standard => "standard"
  | .premium => "premium"
  | .enterprise => "enterprise"

/-- The plan with exactly this name. -/
def ofName? (name : String) : Option Plan :=
  all.find? (·.name = name)

/-- The plan that a text names, whatever white space is around it and whatever the case of its
letters. -/
def parse (s : String) : Except UnknownName Plan :=
  (ofName? (Text.keyword s)).elim (.error (.plan s)) .ok

@[simp]
theorem ofName?_name (p : Plan) : ofName? p.name = some p := by
  cases p <;> decide

end Plan

/-! ### Tenants -/

/-- A tenant and the place of its database. Times are seconds of the calendar. The settings are
free-form members, in ascending order of keys. -/
structure Tenant where
  id : TenantId
  slug : String
  displayName : String
  database : String
  host : String
  port : Nat
  status : Status
  plan : Plan
  settings : List (String × Json)
  createdAt : Nat
  updatedAt : Nat
  deriving Repr, Inhabited

namespace Tenant

/-- A tenant as it is before the directory has given it an identifier and its times. -/
def new (slug displayName host : String) (port : Nat) (database : String) : Tenant where
  id := ""
  slug := slug
  displayName := displayName
  database := database
  host := host
  port := port
  status := .active
  plan := .standard
  settings := []
  createdAt := 0
  updatedAt := 0

/-- Whether the tenant gets a pool. -/
def isActive (t : Tenant) : Bool := t.status.isActive

end Tenant

/-! ### Slugs -/

/-- Why a text is no slug. -/
inductive SlugError
  | empty
  | edge (slug : String)
  | character (slug : String) (c : Char)
  deriving DecidableEq, Repr

/-- The text of a fault. -/
def SlugError.message : SlugError → String
  | .empty => "slug must not be empty"
  | .edge slug => "slug '" ++ slug ++ "' must not start or end with '-'"
  | .character slug c =>
    "slug '" ++ slug ++ "' contains invalid character '" ++ String.singleton c ++ "'"

namespace Slug

/-- The characters of a slug: lower-case ASCII letters, digits and hyphens. -/
def isAllowed (c : Char) : Bool :=
  c.isLower || c.isDigit || c = '-'

/-- A slug is not empty, has no hyphen at its ends, and only allowed characters; of several faults
the first in this order is reported. -/
def check (slug : String) : Except SlugError Unit :=
  let cs := slug.toList
  if cs = [] then .error .empty
  else if cs.head? = some '-' ∨ cs.getLast? = some '-' then .error (.edge slug)
  else
    match cs.find? fun c => !isAllowed c with
    | some c => .error (.character slug c)
    | none => .ok ()

end Slug

end Tenancy
