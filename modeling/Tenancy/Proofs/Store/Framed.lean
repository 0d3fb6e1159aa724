import Tenancy.Proofs.Store.Transaction

/-!
# Changes of one row

What each change of the store does to the tables, whatever rows they hold and whichever access
fails: nothing at all if it fails, and otherwise it sets the one row that it is about, or two rows
where a tenant is created. `changes_framed` says so of the four changes, and that without faults
they are what the store itself does.
-/

namespace Tenancy

/-! ### Rows -/

/-- A row is added or replaced, and all others are kept. -/
structure Assoc.Sets {α β : Type} [DecidableEq α] (a a' : Assoc α β) (key : α) (value : β) :
    Prop where
  row : a'.get? key = some value
  others : ∀ other, other ≠ key → a'.get? other = a.get? other

lemma Assoc.sets_insert {α β : Type} [DecidableEq α] (a : Assoc α β) (key : α) (value : β) :
    a.Sets (a.insert key value) key value :=
  ⟨(get?_insert ..).trans (if_pos rfl), fun _ hne => (get?_insert ..).trans (if_neg hne)⟩

namespace Tables

variable {ρ : Type}

/-- A tenant was created: the record that was asked for, with its identifier and both times. Its row
is a new one if no tenant has the identifier. -/
structure Created (format : RowFormat ρ) (id : TenantId) (now : ℕ) (tenant : Tenant)
    (t : Tables ρ) (u : Tenant) (t' : Tables ρ) : Prop where
  record : u = { tenant with id := id, createdAt := now, updatedAt := now }
  free : t.slugs.get? tenant.slug = none
  slugs : t.slugs.Sets t'.slugs tenant.slug id
  tenants : t.tenants.Sets t'.tenants id (format.write u)
  counters : t'.counters = t.counters

/-- The status of a tenant was changed: the record that the row held, whatever its identifier is,
has the new status and time. -/
structure StatusChanged (format : RowFormat ρ) (id : TenantId) (status : Status) (now : ℕ)
    (t : Tables ρ) (u : Tenant) (t' : Tables ρ) : Prop where
  record : ∃ row old, t.tenants.get? id = some row ∧ format.read row = .ok old ∧
    u = { old with status := status, updatedAt := now }
  tenants : t.tenants.Sets t'.tenants id (format.write u)
  slugs : t'.slugs = t.slugs
  counters : t'.counters = t.counters

/-- A counter has a value, and nothing else was changed. -/
structure CounterSet (key : String) (value : ℕ) (t t' : Tables ρ) : Prop where
  counters : t.counters.Sets t'.counters key value
  tenants : t'.tenants = t.tenants
  slugs : t'.slugs = t.slugs

/-- The value of a counter; zero if it was never written. -/
def counter (t : Tables ρ) (key : String) : ℕ := (t.counters.get? key).getD 0

end Tables

namespace Transaction

variable {ρ α : Type}

/-- A transaction leaves the tables as they were if it fails, and in the `frame` if it succeeds.
Without faults it succeeds exactly if the tables are `ready` for it. -/
structure Framed (x : Transaction ρ α) (ready : Tables ρ → Prop)
    (frame : Tables ρ → α → Tables ρ → Prop) : Prop where
  error : ∀ {faults t e}, (x.carryOut faults t).1 = .error e → (x.carryOut faults t).2 = t
  ok : ∀ {faults t a}, (x.carryOut faults t).1 = .ok a → frame t a (x.carryOut faults t).2
  succeeds : ∀ t, (∃ a, (x.carryOut (fun _ => none) t).1 = .ok a) ↔ ready t

/-- Without faults a transaction on a store is the same as an operation of the store. -/
def RunsAs (x : Transaction String α) (operation : Store → Except StoreError α × Store) : Prop :=
  ∀ s : Store, x.carryOut (fun _ => none) s.tables = ((operation s).1, (operation s).2.tables)

/-- Only what an atomic transaction does without faults has to be looked at. -/
lemma Atomic.framed {x : Transaction ρ α} (hx : Atomic x) {ready : Tables ρ → Prop}
    {frame : Tables ρ → α → Tables ρ → Prop}
    (hcalm : ∀ t, (∃ e, x.carryOut (fun _ => none) t = (.error e, t) ∧ ¬ready t) ∨
      ∃ a t', x.carryOut (fun _ => none) t = (.ok a, t') ∧ ready t ∧ frame t a t') :
    Framed x ready frame := by
  constructor
  · intro faults t e h
    rcases hx.carryOut_cases faults t with ⟨e', heq⟩ | ⟨⟨a, ha⟩, -⟩
    · rw [heq]
    · rw [ha] at h
      cases h
  · intro faults t a h
    rcases hx.carryOut_cases faults t with ⟨e, heq⟩ | ⟨-, heq⟩
    · rw [heq] at h
      cases h
    · rw [heq] at h ⊢
      rcases hcalm t with ⟨e, hrun, -⟩ | ⟨a', t', hrun, -, hframe⟩
      · rw [hrun] at h
        cases h
      · rw [hrun] at h ⊢
        cases h
        exact hframe
  · intro t
    rcases hcalm t with ⟨e, hrun, hready⟩ | ⟨a, t', hrun, hready, -⟩
    · rw [hrun]
      exact ⟨fun ⟨a, ha⟩ => (by cases ha), fun h => absurd h hready⟩
    · rw [hrun]
      exact ⟨fun _ => hready, fun _ => ⟨a, rfl⟩⟩

/-! ### The four changes -/

lemma framed_create (format : RowFormat ρ) (id : TenantId) (now : ℕ) (tenant : Tenant) :
    Framed (create format id now tenant)
      (fun t => Slug.check tenant.slug = .ok () ∧ t.slugs.get? tenant.slug = none)
      (Tables.Created format id now tenant) := by
  refine (atomic_create format id now tenant).framed fun t => ?_
  rw [carryOut_create]
  cases hcheck : Slug.check tenant.slug with
  | error e => exact .inl ⟨_, rfl, fun h => (by cases h.1)⟩
  | ok u =>
    cases hslug : t.slugs.get? tenant.slug with
    | some taken =>
      have htaken : t.slugs.contains tenant.slug = true := by simp only [Assoc.contains, hslug,
        Option.isSome_some]
      exact .inl ⟨_, if_pos htaken, fun h => (by cases h.2)⟩
    | none =>
      have hfree : ¬t.slugs.contains tenant.slug = true := by simp [Assoc.contains, hslug]
      exact .inr ⟨_, _, if_neg hfree, ⟨rfl, rfl⟩, rfl, hslug, Assoc.sets_insert ..,
        Assoc.sets_insert .., rfl⟩

lemma framed_updateStatus (format : RowFormat ρ) (id : TenantId) (status : Status) (now : ℕ) :
    Framed (updateStatus format id status now)
      (fun t => ∃ row old, t.tenants.get? id = some row ∧ format.read row = .ok old)
      (Tables.StatusChanged format id status now) := by
  refine (atomic_updateStatus format id status now).framed fun t => ?_
  rw [carryOut_updateStatus]
  cases hrow : t.tenants.get? id with
  | none => exact .inl ⟨_, rfl, fun ⟨_, _, h, _⟩ => (by cases h)⟩
  | some row =>
    simp only
    cases hread : format.read row with
    | error e =>
      refine .inl ⟨_, rfl, ?_⟩
      rintro ⟨row', old, hrow', hread'⟩
      cases hrow'
      rw [hread] at hread'
      cases hread'
    | ok old =>
      exact .inr ⟨_, _, rfl, ⟨row, old, rfl, hread⟩, ⟨row, old, hrow, hread, rfl⟩,
        Assoc.sets_insert .., rfl, rfl⟩

lemma framed_increment (key : String) (amount : ℕ) :
    Framed (increment ρ key amount) (fun t => t.counter key + amount ≤ Store.maxCounter)
      (fun t next t' => next = t.counter key + amount ∧ Tables.CounterSet key next t t') := by
  refine (atomic_increment key amount).framed fun t => ?_
  rw [carryOut_increment]
  by_cases hmax : Store.maxCounter < t.counter key + amount
  · exact .inl ⟨_, if_pos hmax, Nat.not_le.2 hmax⟩
  · exact .inr ⟨_, _, if_neg hmax, Nat.not_lt.1 hmax, rfl, Assoc.sets_insert .., rfl, rfl⟩

lemma framed_assign (key : String) (value : ℕ) :
    Framed (assign ρ key value) (fun _ => True)
      (fun t _ t' => Tables.CounterSet key value t t') := by
  refine (atomic_assign key value).framed fun t => ?_
  rw [carryOut_assign]
  exact .inr ⟨_, _, rfl, trivial, Assoc.sets_insert .., rfl, rfl⟩

/-! ### The operations of the store -/

lemma runsAs_create (id : TenantId) (now : ℕ) (tenant : Tenant) :
    RunsAs (create .text id now tenant) (·.create id now tenant) := by
  intro s
  rw [carryOut_create]
  cases hcheck : Slug.check tenant.slug with
  | error e =>
    simp only [Store.create, Store.transact, hcheck]
    rfl
  | ok u =>
    cases hslug : s.slugs.get? tenant.slug
    all_goals
      simp only [Store.create, Store.transact, Store.tables, hcheck, Assoc.contains, hslug]
      rfl

lemma runsAs_updateStatus (id : TenantId) (status : Status) (now : ℕ) :
    RunsAs (updateStatus .text id status now) (·.updateStatus id status now) := by
  intro s
  rw [carryOut_updateStatus]
  simp only [Store.updateStatus, Store.transact, Store.tables]
  cases s.tenants.get? id with
  | none => rfl
  | some row =>
    simp only [RowFormat.text]
    cases Store.decode row <;> rfl

lemma runsAs_increment (key : String) (amount : ℕ) :
    RunsAs (increment String key amount) (·.increment key amount) := by
  intro s
  rw [carryOut_increment]
  by_cases hmax : Store.maxCounter < (s.counters.get? key).getD 0 + amount
  all_goals
    simp only [Store.increment, Store.transact, Store.counter, Store.tables, hmax, if_true,
      if_false]
    rfl

lemma runsAs_assign (key : String) (value : ℕ) :
    RunsAs (assign String key value) (·.set key value) := fun _ => rfl

/-- Whatever the tables hold, in rows of any form, and whichever access fails: a change of the store
that fails leaves all tables as they were. One that succeeds sets the row of a new tenant and its
entry in the index, or the row of the tenant whose status is changed, or the row of a counter, and
keeps every other row. Without faults the changes are what the store does. -/
theorem changes_framed (format : RowFormat ρ) :
    (∀ id now tenant,
      Framed (create format id now tenant)
        (fun t => Slug.check tenant.slug = .ok () ∧ t.slugs.get? tenant.slug = none)
        (Tables.Created format id now tenant) ∧
      RunsAs (create .text id now tenant) (·.create id now tenant)) ∧
    (∀ id status now,
      Framed (updateStatus format id status now)
        (fun t => ∃ row old, t.tenants.get? id = some row ∧ format.read row = .ok old)
        (Tables.StatusChanged format id status now) ∧
      RunsAs (updateStatus .text id status now) (·.updateStatus id status now)) ∧
    (∀ key amount,
      Framed (increment ρ key amount) (fun t => t.counter key + amount ≤ Store.maxCounter)
        (fun t next t' => next = t.counter key + amount ∧ Tables.CounterSet key next t t') ∧
      RunsAs (increment String key amount) (·.increment key amount)) ∧
    ∀ key value,
      Framed (assign ρ key value) (fun _ => True) (fun t _ t' => Tables.CounterSet key value t t') ∧
      RunsAs (assign String key value) (·.set key value) :=
  ⟨fun id now tenant => ⟨framed_create format id now tenant, runsAs_create id now tenant⟩,
    fun id status now =>
      ⟨framed_updateStatus format id status now, runsAs_updateStatus id status now⟩,
    fun key amount => ⟨framed_increment key amount, runsAs_increment key amount⟩,
    fun key value => ⟨framed_assign key value, runsAs_assign key value⟩⟩

/-- The fifth access commits. If it fails, the value that was written before it is lost. -/
example : (increment String "INV/t1" 1).carryOut
    (fun n => if n = 4 then some (.transaction "disk full") else none) Store.empty.tables =
      (.error (.transaction "disk full"), Store.empty.tables) := rfl

end Transaction

end Tenancy
