import Tenancy.Proofs.Tenant.Record
import Tenancy.Store.Basic

/-!
# Changes of the store

What can come of creating a tenant and of changing a status, `create_cases` and
`updateStatus_cases`, and a store together with the tenants that were created in it.
-/

namespace Tenancy.Store

/-- A tenant as it is registered. -/
def registered (id : TenantId) (now : ℕ) (tenant : Tenant) : Tenant :=
  { tenant with id := id, createdAt := now, updatedAt := now }

/-- A tenant is created if its slug is well formed and free; otherwise nothing changes. -/
lemma create_cases (s : Store) (id : TenantId) (now : ℕ) (tenant : Tenant) :
    (∃ e, s.create id now tenant = (.error e, s)) ∨
    (Slug.check tenant.slug = .ok () ∧ s.slugs.get? tenant.slug = none ∧
      s.create id now tenant = (.ok (registered id now tenant),
        { s with
          slugs := s.slugs.insert tenant.slug id
          tenants := s.tenants.insert id (registered id now tenant).text })) := by
  cases hcheck : Slug.check tenant.slug with
  | error e =>
    left
    refine ⟨.invalid e.message, ?_⟩
    simp only [create, transact, hcheck]
    rfl
  | ok u =>
    cases hslug : s.slugs.get? tenant.slug with
    | some taken =>
      left
      refine ⟨.alreadyExists ("tenant slug " ++ tenant.slug), ?_⟩
      simp only [create, transact, hcheck, Assoc.contains, hslug, Option.isSome_some, if_true]
      rfl
    | none =>
      right
      refine ⟨rfl, rfl, ?_⟩
      simp only [create, transact, hcheck, Assoc.contains, hslug]
      rfl

/-- A status is changed if the row of the tenant can be read; otherwise nothing changes. -/
lemma updateStatus_cases (s : Store) (id : TenantId) (status : Status) (now : ℕ) :
    (∃ e, s.updateStatus id status now = (.error e, s)) ∨
    ∃ row tenant, s.tenants.get? id = some row ∧ decode row = .ok tenant ∧
      s.updateStatus id status now = (.ok { tenant with status, updatedAt := now },
        { s with
          tenants := s.tenants.insert id { tenant with status, updatedAt := now }.text }) := by
  cases hrow : s.tenants.get? id with
  | none =>
    left
    refine ⟨.noTenant id, ?_⟩
    simp only [updateStatus, transact, hrow]
    rfl
  | some row =>
    cases hread : decode row with
    | error e =>
      left
      refine ⟨e, ?_⟩
      simp only [updateStatus, transact, hrow, hread]
      rfl
    | ok tenant =>
      right
      refine ⟨row, tenant, rfl, hread, ?_⟩
      simp only [updateStatus, transact, hrow, hread]
      rfl

/-! ### Histories -/

/-- A call that changes the tenants of a store. -/
inductive Change
  | create (id : TenantId) (now : ℕ) (tenant : Tenant)
  | updateStatus (id : TenantId) (status : Status) (now : ℕ)

/-- Whether the numbers of a change are of their sizes. -/
def Change.Sized : Change → Prop
  | .create _ now tenant => now ≤ Text.maxWord ∧ tenant.Sized
  | .updateStatus _ _ now => now ≤ Text.maxWord

/-- Whether numbers are of their sizes, a tenant gets an identifier that no other one has, and its
settings are not nested too deeply to be read. -/
def Change.Admissible (s : Store) : Change → Prop
  | .create id now tenant =>
    s.tenants.get? id = none ∧ now ≤ Text.maxWord ∧ tenant.WellFormed ∧ tenant.IsShallow
  | .updateStatus _ _ now => now ≤ Text.maxWord

/-- A store, and the tenants that were created in it as they were then. -/
structure History where
  store : Store
  created : List Tenant

namespace History

/-- The history of a store without rows. -/
def start : History := ⟨empty, []⟩

/-- The history after a change, whether it succeeds or fails. -/
def next (h : History) : Change → History
  | .create id now tenant =>
    match h.store.create id now tenant with
    | (.ok registered, s) => ⟨s, h.created ++ [registered]⟩
    | (.error _, s) => ⟨s, h.created⟩
  | .updateStatus id status now => ⟨(h.store.updateStatus id status now).2, h.created⟩

/-- The histories that changes lead to which are allowed in the stores that they change. -/
inductive Reachable (allowed : Store → Change → Prop) : History → Prop
  | start : Reachable allowed start
  | next {h : History} {c : Change} :
    Reachable allowed h → allowed h.store c → Reachable allowed (h.next c)

end History

end Tenancy.Store
