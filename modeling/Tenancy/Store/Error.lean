/-!
# Faults of the store

Why an operation of the store, or of a directory of tenants, did not succeed.
-/

namespace Tenancy

/-- A fault of the store, with what it is about. -/
inductive StoreError
  | opening (detail : String)
  | transaction (detail : String)
  | table (detail : String)
  | reading (detail : String)
  | writing (detail : String)
  | encoding (detail : String)
  | decoding (detail : String)
  | notFound (what : String)
  | alreadyExists (what : String)
  | invalid (why : String)
  | overflow (what : String)
  deriving DecidableEq, Repr, Inhabited

namespace StoreError

/-- Whether the fault is that a record does not exist. -/
def isNotFound : StoreError → Bool
  | .notFound _ => true
  | _ => false

/-- The text of a fault. -/
def message : StoreError → String
  | .opening detail => "failed to open database: " ++ detail
  | .transaction detail => "transaction error: " ++ detail
  | .table detail => "table error: " ++ detail
  | .reading detail => "read error: " ++ detail
  | .writing detail => "write error: " ++ detail
  | .encoding detail => "serialization error: " ++ detail
  | .decoding detail => "deserialization error: " ++ detail
  | .notFound what => "not found: " ++ what
  | .alreadyExists what => "already exists: " ++ what
  | .invalid why => "invalid record: " ++ why
  | .overflow what => "counter overflow: " ++ what

/-- No tenant has this identifier. -/
def noTenant (id : String) : StoreError := .notFound ("tenant " ++ id)

/-- No tenant has this slug. -/
def noSlug (slug : String) : StoreError := .notFound ("tenant slug " ++ slug)

end StoreError

end Tenancy
