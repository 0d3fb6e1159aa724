import Mathlib.Tactic.Common
import Tenancy.Proofs.Store.Changes

/-!
# Transactions, one access after another

A transaction works on a copy of the tables. It may fail at every access, before, between and after
the writes; the copy takes the place of the tables when it is committed, and is given up otherwise.
The changes of the store are spelled out in this way here. They are `Atomic`, since only the last
thing that they do is to commit, and lemmas such as `carryOut_create` say what each of them comes to
when no access fails.
-/

namespace Tenancy

open Store (registered maxCounter)

/-! ### Tables -/

/-- How the record of a tenant is kept in a row. -/
structure RowFormat (ρ : Type) where
  read : ρ → Except StoreError Tenant
  write : Tenant → ρ

/-- Rows are texts. -/
def RowFormat.text : RowFormat String := ⟨Store.decode, Tenant.text⟩

/-- The tables of a store, with rows of any form. -/
structure Tables (ρ : Type) where
  tenants : Assoc TenantId ρ
  slugs : Assoc String TenantId
  counters : Assoc String ℕ

/-- The tables of a store, whose rows are texts. -/
def Store.tables (s : Store) : Tables String := ⟨s.tenants, s.slugs, s.counters⟩

/-! ### Accesses -/

/-- The tables, and the copy that a transaction works on. -/
structure Progress (ρ : Type) where
  committed : Tables ρ
  working : Tables ρ
  /-- Why each access fails, if it does. -/
  faults : ℕ → Option StoreError
  /-- The number of accesses so far. -/
  accesses : ℕ

/-- A transaction. It ends with the first access that fails. -/
abbrev Transaction (ρ : Type) := EStateM StoreError (Progress ρ)

namespace Transaction

variable {ρ α β : Type}

/-- An access to the tables, which may fail. -/
def access : Transaction ρ Unit := fun p =>
  match p.faults p.accesses with
  | some cause => .error cause { p with accesses := p.accesses + 1 }
  | none => .ok () { p with accesses := p.accesses + 1 }

/-- Starts to work on a copy of the tables. -/
def start : Transaction ρ Unit := do
  access
  modify fun p => { p with working := p.committed }

/-- Looks something up. -/
def look (f : Tables ρ → α) : Transaction ρ α := do
  access
  return f (← get).working

/-- Changes the copy. -/
def write (f : Tables ρ → Tables ρ) : Transaction ρ Unit := do
  access
  modify fun p => { p with working := f p.working }

/-- Puts the copy in place of the tables. -/
def commit : Transaction ρ Unit := do
  access
  modify fun p => { p with committed := p.working }

/-- The result of a transaction, and the tables after it. A copy that was not committed is lost. -/
def carryOut (x : Transaction ρ α) (faults : ℕ → Option StoreError) (t : Tables ρ) :
    Except StoreError α × Tables ρ :=
  match x ⟨t, t, faults, 0⟩ with
  | .ok a p => (.ok a, p.committed)
  | .error e p => (.error e, p.committed)

/-! ### The changes of the store -/

/-- Registers a tenant under an identifier. -/
def create (format : RowFormat ρ) (id : TenantId) (now : ℕ) (tenant : Tenant) :
    Transaction ρ Tenant :=
  match Slug.check tenant.slug with
  | .error e => throw (.invalid e.message)
  | .ok () => do
    let tenant := registered id now tenant
    access -- writes the record as a row
    start
    access -- opens the index
    if ← look (·.slugs.contains tenant.slug) then
      throw (.alreadyExists ("tenant slug " ++ tenant.slug))
    else
      write fun t => { t with slugs := t.slugs.insert tenant.slug id }
      access -- opens the table of tenants
      write fun t => { t with tenants := t.tenants.insert id (format.write tenant) }
      commit
      return tenant

/-- Changes the status of a tenant. -/
def updateStatus (format : RowFormat ρ) (id : TenantId) (status : Status) (now : ℕ) :
    Transaction ρ Tenant := do
  start
  access -- opens the table of tenants
  match ← look (·.tenants.get? id) with
  | none => throw (.noTenant id)
  | some row =>
    match format.read row with
    | .error e => throw e
    | .ok tenant =>
      let tenant := { tenant with status, updatedAt := now }
      access -- writes the record as a row
      write fun t => { t with tenants := t.tenants.insert id (format.write tenant) }
      commit
      return tenant

/-- Adds to a counter. -/
def increment (ρ : Type) (key : String) (amount : ℕ) : Transaction ρ ℕ := do
  start
  access -- opens the table of counters
  let next := (← look (·.counters.get? key)).getD 0 + amount
  if maxCounter < next then throw (.overflow ("sequence " ++ key))
  else
    write fun t => { t with counters := t.counters.insert key next }
    commit
    return next

/-- Gives a counter a value. -/
def assign (ρ : Type) (key : String) (value : ℕ) : Transaction ρ Unit := do
  start
  access -- opens the table of counters
  write fun t => { t with counters := t.counters.insert key value }
  commit

/-! ### Transactions that fail -/

/-- The progress without faults. -/
def calm (p : Progress ρ) : Progress ρ := { p with faults := fun _ => none }

/-- A part of a transaction that comes before it is committed. If it succeeds, it does what it does
without faults. -/
structure Pending (x : Transaction ρ α) : Prop where
  ok : ∀ {p a p'}, x p = .ok a p' → p'.committed = p.committed ∧ x (calm p) = .ok a (calm p')
  error : ∀ {p e p'}, x p = .error e p' → p'.committed = p.committed

/-- A transaction that changes nothing if it fails. If it succeeds, it does what it does without
faults. -/
structure Atomic (x : Transaction ρ α) : Prop where
  ok : ∀ {p a p'}, x p = .ok a p' → x (calm p) = .ok a (calm p')
  error : ∀ {p e p'}, x p = .error e p' → p'.committed = p.committed

lemma bind_eq (x : Transaction ρ α) (f : α → Transaction ρ β) (p : Progress ρ) :
    (x >>= f) p = match x p with
      | .ok a p => f a p
      | .error e p => .error e p := by
  simp only [Bind.bind, EStateM.bind]
  cases x p <;> rfl

lemma Pending.bind {x : Transaction ρ α} {f : α → Transaction ρ β} (hx : Pending x)
    (hf : ∀ a, Pending (f a)) : Pending (x >>= f) := by
  constructor
  · intro p b p' h
    rw [bind_eq] at h
    cases hxp : x p with
    | error e q => simp [hxp] at h
    | ok a q =>
      rw [hxp] at h
      obtain ⟨hq, hcalm⟩ := hx.ok hxp
      obtain ⟨hp', hcalm'⟩ := (hf a).ok h
      exact ⟨hp'.trans hq, by rw [bind_eq, hcalm]; exact hcalm'⟩
  · intro p e p' h
    rw [bind_eq] at h
    cases hxp : x p with
    | error e q =>
      rw [hxp] at h
      cases h
      exact hx.error hxp
    | ok a q =>
      rw [hxp] at h
      exact ((hf a).error h).trans (hx.ok hxp).1

/-- A transaction is atomic if only its last part commits. -/
lemma Atomic.bind {x : Transaction ρ α} {f : α → Transaction ρ β} (hx : Pending x)
    (hf : ∀ a, Atomic (f a)) : Atomic (x >>= f) := by
  constructor
  · intro p b p' h
    rw [bind_eq] at h
    cases hxp : x p with
    | error e q => simp [hxp] at h
    | ok a q =>
      rw [hxp] at h
      rw [bind_eq, (hx.ok hxp).2]
      exact (hf a).ok h
  · intro p e p' h
    rw [bind_eq] at h
    cases hxp : x p with
    | error e q =>
      rw [hxp] at h
      cases h
      exact hx.error hxp
    | ok a q =>
      rw [hxp] at h
      exact ((hf a).error h).trans (hx.ok hxp).1

lemma pending_access : Pending (access : Transaction ρ Unit) := by
  constructor
  all_goals
    intro p _ p' h
    unfold access at h
    cases hfault : p.faults p.accesses
    all_goals
      rw [hfault] at h
      cases h
  · exact ⟨rfl, rfl⟩
  · rfl

/-- Whatever changes only the copy, after an access. -/
lemma pending_modify {f : Progress ρ → Progress ρ} (hf : ∀ p, (f p).committed = p.committed)
    (hcalm : ∀ p, f (calm p) = calm (f p)) :
    Pending (do access; modify f : Transaction ρ Unit) := by
  refine pending_access.bind fun _ => ⟨?_, ?_⟩
  · intro p a p' h
    cases h
    refine ⟨hf p, ?_⟩
    rw [← hcalm]
    rfl
  · intro p e p' h
    cases h

lemma pending_start : Pending (start : Transaction ρ Unit) :=
  pending_modify (fun _ => rfl) fun _ => rfl

lemma pending_write (f : Tables ρ → Tables ρ) : Pending (write f) :=
  pending_modify (fun _ => rfl) fun _ => rfl

lemma pending_look (f : Tables ρ → α) : Pending (look f) := by
  refine pending_access.bind fun _ => ⟨?_, ?_⟩
  · intro p a p' h
    cases h
    exact ⟨rfl, rfl⟩
  · intro p e p' h
    cases h

lemma atomic_throw (e : StoreError) : Atomic (throw e : Transaction ρ α) := by
  constructor
  · intro p a p' h
    cases h
  · intro p e' p' h
    cases h
    rfl

/-- A commit that fails changes nothing. -/
lemma atomic_commit : Atomic (commit : Transaction ρ Unit) := by
  refine .bind pending_access fun _ => ⟨?_, ?_⟩
  · intro p a p' h
    cases h
    rfl
  · intro p e p' h
    cases h

lemma atomic_commit_return (a : α) : Atomic (do commit; return a : Transaction ρ α) := by
  constructor
  · intro p b p' h
    rw [bind_eq] at h
    cases hc : commit p with
    | error e q => simp [hc] at h
    | ok u q =>
      rw [hc] at h
      cases h
      rw [bind_eq, atomic_commit.ok hc]
      rfl
  · intro p e p' h
    rw [bind_eq] at h
    cases hc : commit p with
    | error e' q =>
      rw [hc] at h
      cases h
      exact atomic_commit.error hc
    | ok u q =>
      rw [hc] at h
      cases h

lemma atomic_create (format : RowFormat ρ) (id : TenantId) (now : ℕ) (tenant : Tenant) :
    Atomic (create format id now tenant) := by
  unfold create
  split
  · exact atomic_throw _
  · refine .bind pending_access fun _ => .bind pending_start fun _ => ?_
    refine .bind pending_access fun _ => .bind (pending_look _) fun taken => ?_
    split
    · exact atomic_throw _
    · refine .bind (pending_write _) fun _ => .bind pending_access fun _ => ?_
      exact .bind (pending_write _) fun _ => atomic_commit_return _

lemma atomic_updateStatus (format : RowFormat ρ) (id : TenantId) (status : Status) (now : ℕ) :
    Atomic (updateStatus format id status now) := by
  refine .bind pending_start fun _ => .bind pending_access fun _ => ?_
  refine .bind (pending_look _) fun found => ?_
  split
  · exact atomic_throw _
  · split
    · exact atomic_throw _
    · refine .bind pending_access fun _ => ?_
      exact .bind (pending_write _) fun _ => atomic_commit_return _

lemma atomic_increment (key : String) (amount : ℕ) : Atomic (increment ρ key amount) := by
  refine .bind pending_start fun _ => .bind pending_access fun _ => ?_
  refine .bind (pending_look _) fun found => ?_
  dsimp only
  split
  · exact atomic_throw _
  · exact .bind (pending_write _) fun _ => atomic_commit_return _

lemma atomic_assign (key : String) (value : ℕ) : Atomic (assign ρ key value) :=
  .bind pending_start fun _ => .bind pending_access fun _ =>
    .bind (pending_write _) fun _ => atomic_commit

/-- A transaction that fails leaves the tables as they were, and one that succeeds does what it does
without faults. -/
lemma Atomic.carryOut_cases {x : Transaction ρ α} (hx : Atomic x) (faults : ℕ → Option StoreError)
    (t : Tables ρ) :
    (∃ e, x.carryOut faults t = (.error e, t)) ∨
      (∃ a, (x.carryOut faults t).1 = .ok a) ∧
        x.carryOut faults t = x.carryOut (fun _ => none) t := by
  unfold carryOut
  cases h : x ⟨t, t, faults, 0⟩ with
  | error e p =>
    have hp := hx.error h
    exact .inl ⟨e, by simp only [hp]⟩
  | ok a p =>
    have hcalm := hx.ok h
    refine .inr ⟨⟨a, rfl⟩, ?_⟩
    simp only [calm] at hcalm
    simp only [hcalm]

/-! ### Transactions without faults -/

section Calm

variable (t w : Tables ρ) (n : ℕ)

lemma access_calm : access ⟨t, w, fun _ => none, n⟩ = .ok () ⟨t, w, fun _ => none, n + 1⟩ := rfl

lemma start_calm : start ⟨t, w, fun _ => none, n⟩ = .ok () ⟨t, t, fun _ => none, n + 1⟩ := rfl

lemma look_calm (f : Tables ρ → α) :
    look f ⟨t, w, fun _ => none, n⟩ = .ok (f w) ⟨t, w, fun _ => none, n + 1⟩ := rfl

end Calm

/-- What registering a tenant comes to. -/
lemma carryOut_create (format : RowFormat ρ) (id : TenantId) (now : ℕ) (tenant : Tenant)
    (t : Tables ρ) :
    (create format id now tenant).carryOut (fun _ => none) t =
      match Slug.check tenant.slug with
      | .error e => (.error (.invalid e.message), t)
      | .ok () =>
        if t.slugs.contains tenant.slug then
          (.error (.alreadyExists ("tenant slug " ++ tenant.slug)), t)
        else (.ok (registered id now tenant),
          ⟨t.tenants.insert id (format.write (registered id now tenant)),
            t.slugs.insert tenant.slug id, t.counters⟩) := by
  unfold create
  cases Slug.check tenant.slug with
  | error e => rfl
  | ok u =>
    simp only [carryOut, bind_eq, access_calm, start_calm, look_calm]
    have hslug : (registered id now tenant).slug = tenant.slug := rfl
    rw [hslug]
    cases t.slugs.contains tenant.slug <;> rfl

/-- What changing a status comes to. -/
lemma carryOut_updateStatus (format : RowFormat ρ) (id : TenantId) (status : Status) (now : ℕ)
    (t : Tables ρ) :
    (updateStatus format id status now).carryOut (fun _ => none) t =
      match t.tenants.get? id with
      | none => (.error (.noTenant id), t)
      | some row =>
        match format.read row with
        | .error e => (.error e, t)
        | .ok tenant => (.ok { tenant with status, updatedAt := now },
          { t with
            tenants := t.tenants.insert id
              (format.write { tenant with status, updatedAt := now }) }) := by
  simp only [updateStatus, carryOut, bind_eq, access_calm, start_calm, look_calm]
  cases t.tenants.get? id with
  | none => rfl
  | some row =>
    simp only
    cases format.read row <;> rfl

/-- What adding to a counter comes to. -/
lemma carryOut_increment (key : String) (amount : ℕ) (t : Tables ρ) :
    (increment ρ key amount).carryOut (fun _ => none) t =
      let next := (t.counters.get? key).getD 0 + amount
      if maxCounter < next then (.error (.overflow ("sequence " ++ key)), t)
      else (.ok next, { t with counters := t.counters.insert key next }) := by
  simp only [increment, carryOut, bind_eq, access_calm, start_calm, look_calm]
  by_cases hmax : maxCounter < (t.counters.get? key).getD 0 + amount
  · simp only [if_pos hmax]
    rfl
  · simp only [if_neg hmax]
    rfl

/-- What giving a counter a value comes to. -/
lemma carryOut_assign (key : String) (value : ℕ) (t : Tables ρ) :
    (assign ρ key value).carryOut (fun _ => none) t =
      (.ok (), { t with counters := t.counters.insert key value }) := rfl

end Transaction

end Tenancy
