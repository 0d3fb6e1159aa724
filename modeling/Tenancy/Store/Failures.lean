import Tenancy.Store.Error

/-!
# Planned failures

Calls of a store, of counters or of a directory can be made to fail ahead of time. A plan says how
many calls of each kind fail, and with what fault; plans for one kind are carried out in the order
in which they were made.
-/

namespace Tenancy

/-- The failures to come, with the number of calls that each is planned for. -/
structure Failures (κ : Type) where
  planned : List (κ × StoreError × Nat)
  deriving Repr, Inhabited

namespace Failures

variable {κ : Type} [DecidableEq κ]

/-- Nothing is planned. -/
def none : Failures κ := ⟨[]⟩

/-- Plans a failure of so many calls of a kind, after those already planned. -/
def plan (f : Failures κ) (call : κ) (cause : StoreError) (times : Nat) : Failures κ :=
  if times = 0 then f else ⟨f.planned ++ [(call, cause, times)]⟩

/-- Carries out the first plan for a kind of calls once, if there is one. -/
def take? (call : κ) :
    List (κ × StoreError × Nat) → Option (StoreError × List (κ × StoreError × Nat))
  | [] => Option.none
  | (kind, cause, times) :: rest =>
    if kind = call then
      some (cause, if times ≤ 1 then rest else (kind, cause, times - 1) :: rest)
    else (take? call rest).map fun (found, left) => (found, (kind, cause, times) :: left)

/-- The fault planned for this call, and the failures to come after it. -/
def next? (f : Failures κ) (call : κ) : Option (StoreError × Failures κ) :=
  (take? call f.planned).map fun (cause, planned) => (cause, ⟨planned⟩)

@[simp]
theorem next?_none (call : κ) : (none : Failures κ).next? call = Option.none := rfl

end Failures

end Tenancy
