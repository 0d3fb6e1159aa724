import Tenancy.Store.Basic
import Tenancy.Store.Failures

/-!
# A directory under names

The store gives every tenant an identifier of its own. Here tenants are known by names that the
one who registers them chooses, and every record shows the name in place of the identifier. A name
that is given again belongs to the later tenant; the earlier one keeps it in lists. Calls of the
directory can be made to fail.
-/

namespace Tenancy.Simulation

/-- The calls of a directory. -/
inductive Lookup
  | get | list | update
  deriving DecidableEq, Repr

/-- A directory: a store, the identifiers that names stand for, and the failures to come. -/
structure Directory where
  store : Store
  /-- The identifier of the tenant that a name stands for. -/
  ids : Assoc String TenantId
  /-- The name that each identifier was registered under. -/
  names : Assoc TenantId String
  failures : Failures Lookup
  /-- How many tenants were registered. -/
  registered : Nat
  deriving Inhabited

namespace Directory

/-- A directory over a store, without names. -/
def of (store : Store) : Directory := ⟨store, ∅, ∅, .none, 0⟩

/-- The identifier that a name stands for; a name that was never given stands for itself. -/
def resolve (d : Directory) (name : String) : TenantId := (d.ids.get? name).getD name

/-- The record of a tenant, under its name. -/
def named (d : Directory) (t : Tenant) : Tenant :=
  { t with id := (d.names.get? t.id).getD t.id }

/-- An identifier that no tenant has. -/
def freshId (d : Directory) : TenantId := "\x01" ++ toString d.registered

/-- Registers a tenant under a name. -/
def create (d : Directory) (name : String) (now : Nat) (tenant : Tenant) :
    Except StoreError Tenant × Directory :=
  let id := d.freshId
  match d.store.create id now tenant with
  | (.error e, store) => (.error e, { d with store })
  | (.ok tenant, store) =>
    let d :=
      { d with
        store
        ids := d.ids.insert name id
        names := d.names.insert id name
        registered := d.registered + 1 }
    (.ok (d.named tenant), d)

/-- Plans a failure of the next calls of a kind, after those already planned. -/
def plan (d : Directory) (call : Lookup) (cause : StoreError) (times : Nat) : Directory :=
  { d with failures := d.failures.plan call cause times }

/-- Carries out a call, unless a failure is planned for it. -/
def attempt {α : Type} (d : Directory) (call : Lookup)
    (body : Directory → Except StoreError α × Directory) : Except StoreError α × Directory :=
  match d.failures.next? call with
  | some (cause, failures) => (.error cause, { d with failures })
  | none => body d

/-- The tenant with a name. -/
def get (d : Directory) (name : String) : Except StoreError Tenant × Directory :=
  d.attempt .get fun d => ((d.store.require (d.resolve name)).map d.named, d)

/-- The active tenants, in ascending order of slugs. -/
def listActive (d : Directory) : Except StoreError (List Tenant) × Directory :=
  d.attempt .list fun d => ((d.store.listWithStatus .active).map (·.map d.named), d)

/-- Changes the status of the tenant with a name in the store. -/
def setStatus (d : Directory) (name : String) (status : Status) (now : Nat) :
    Except StoreError Tenant × Directory :=
  let (r, store) := d.store.updateStatus (d.resolve name) status now
  (r.map d.named, { d with store })

/-- Changes the status of the tenant with a name. -/
def update (d : Directory) (name : String) (status : Status) (now : Nat) :
    Except StoreError Unit × Directory :=
  d.attempt .update fun d =>
    let (r, d) := d.setStatus name status now
    (r.map fun _ => (), d)

end Directory

end Tenancy.Simulation
