import Tenancy.Assoc
import Tenancy.Store.Error
import Tenancy.Tenant.Record

/-!
# The store

Three tables: the records of the tenants as texts, an index from slugs to identifiers, and
counters. Every change is a transaction: it takes effect as a whole, or not at all and gives the
reason.
-/

namespace Tenancy

/-- The tables of the store. -/
structure Store where
  /-- The text of each record by the identifier of its tenant. -/
  tenants : Assoc TenantId String
  /-- The identifier of the tenant with each slug. -/
  slugs : Assoc String TenantId
  /-- The value of each counter that was ever written. -/
  counters : Assoc String Nat
  deriving DecidableEq, Repr, Inhabited

namespace Store

/-- A store without rows. -/
def empty : Store := ⟨∅, ∅, ∅⟩

/-- Carries out a transaction: its changes are kept if it succeeds and given up if it fails. -/
def transact {α : Type} (s : Store) (body : Store → Except StoreError (α × Store)) :
    Except StoreError α × Store :=
  match body s with
  | .ok (a, s') => (.ok a, s')
  | .error e => (.error e, s)

/-! ### Tenants -/

/-- Reads a row of the table of tenants. -/
def decode (row : String) : Except StoreError Tenant :=
  (Tenant.ofText? row).elim (.error (.decoding row)) .ok

/-- Registers a tenant under a fresh identifier at the time `now`. Its slug has to be well formed
and free. -/
def create (s : Store) (id : TenantId) (now : Nat) (tenant : Tenant) :
    Except StoreError Tenant × Store :=
  s.transact fun s => do
    match Slug.check tenant.slug with
    | .error e => throw (.invalid e.message)
    | .ok () =>
      let tenant := { tenant with id := id, createdAt := now, updatedAt := now }
      if s.slugs.contains tenant.slug then
        throw (.alreadyExists ("tenant slug " ++ tenant.slug))
      let slugs := s.slugs.insert tenant.slug tenant.id
      let tenants := s.tenants.insert tenant.id tenant.text
      return (tenant, { s with slugs, tenants })

/-- The tenant with an identifier, if there is one. -/
def get (s : Store) (id : TenantId) : Except StoreError (Option Tenant) :=
  match s.tenants.get? id with
  | none => .ok none
  | some row => (decode row).map some

/-- The tenant with a slug, if there is one. -/
def getBySlug (s : Store) (slug : String) : Except StoreError (Option Tenant) :=
  match s.slugs.get? slug with
  | none => .ok none
  | some id => s.get id

/-- The rows of the table of tenants, in ascending order of keys. -/
def rows (s : Store) : List (TenantId × String) :=
  s.tenants.toList.mergeSort fun a b => decide (a.1 ≤ b.1)

/-- All tenants in ascending order of slugs; those with equal slugs in the order of their rows. -/
def list (s : Store) : Except StoreError (List Tenant) := do
  let tenants ← s.rows.mapM fun row => decode row.2
  return tenants.mergeSort fun a b => decide (a.slug ≤ b.slug)

/-- The tenants with a status, in ascending order of slugs. -/
def listWithStatus (s : Store) (status : Status) : Except StoreError (List Tenant) :=
  s.list.map fun tenants => tenants.filter (·.status = status)

/-- Changes the status of a tenant at the time `now`. -/
def updateStatus (s : Store) (id : TenantId) (status : Status) (now : Nat) :
    Except StoreError Tenant × Store :=
  s.transact fun s => do
    match s.tenants.get? id with
    | none => throw (.noTenant id)
    | some row =>
      let tenant ← decode row
      let tenant := { tenant with status, updatedAt := now }
      return (tenant, { s with tenants := s.tenants.insert id tenant.text })

/-! ### The directory -/

/-- The tenant with an identifier, which has to exist. -/
def require (s : Store) (id : TenantId) : Except StoreError Tenant := do
  match ← s.get id with
  | some tenant => return tenant
  | none => throw (.noTenant id)

/-- The tenant with a slug, which has to exist. -/
def requireSlug (s : Store) (slug : String) : Except StoreError Tenant := do
  match ← s.getBySlug slug with
  | some tenant => return tenant
  | none => throw (.noSlug slug)

/-! ### Counters -/

/-- The greatest value of a counter. -/
def maxCounter : Nat := 18446744073709551615

/-- The value of a counter; zero if it was never written. -/
def counter (s : Store) (key : String) : Nat :=
  (s.counters.get? key).getD 0

/-- Adds to a counter and gives its new value, unless that is too large. -/
def increment (s : Store) (key : String) (amount : Nat) : Except StoreError Nat × Store :=
  s.transact fun s => do
    let next := s.counter key + amount
    if maxCounter < next then throw (.overflow ("sequence " ++ key))
    return (next, { s with counters := s.counters.insert key next })

/-- Gives a counter a value. -/
def set (s : Store) (key : String) (value : Nat) : Except StoreError Unit × Store :=
  s.transact fun s => return ((), { s with counters := s.counters.insert key value })

end Store

end Tenancy
