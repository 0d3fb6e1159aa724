import Tenancy.Numbering.Error
import Tenancy.Store.Basic
import Tenancy.Store.Failures

/-!
# Places where counters are kept

Numbers are drawn from counters that outlive the process. `Counters` says what such a place has to
offer; the store is one, and `Unreliable` makes one that fails when it is told to.
-/

namespace Tenancy

/-- A place where counters are kept. Each operation gives its result and the place after it. -/
class Counters (σ : Type) where
  /-- Adds to a counter, which starts at zero, and gives its new value. -/
  increment : CounterKey → Nat → σ → Except NumberingError Nat × σ
  /-- Gives a counter a value. -/
  set : CounterKey → Nat → σ → Except NumberingError Unit × σ
  /-- The value of a counter; zero if it was never written. -/
  current : CounterKey → σ → Except NumberingError Nat × σ

/-- The result of a store, as that of a place where counters are kept. -/
def Counters.ofStore {α : Type} (r : Except StoreError α × Store) :
    Except NumberingError α × Store :=
  (r.1.mapError .store, r.2)

instance : Counters Store where
  increment key amount s := Counters.ofStore (s.increment key.text amount)
  set key value s := Counters.ofStore (s.set key.text value)
  current key s := (.ok (s.counter key.text), s)

/-! ### Planned failures -/

/-- The operations on counters. -/
inductive Counters.Operation
  | increment | set | current
  deriving DecidableEq, Repr

/-- A place where counters are kept, with failures planned for the calls to come. A call that fails
has no effect on the place. -/
structure Unreliable (σ : Type) where
  place : σ
  failures : Failures Counters.Operation
  /-- What the next increment gives that does not fail; it then leaves the place alone. -/
  answer : Option Nat
  /-- The number of increments that were asked for. -/
  increments : Nat
  deriving Repr

namespace Unreliable

variable {σ : Type}

/-- A place with nothing planned. -/
def of (place : σ) : Unreliable σ := ⟨place, .none, none, 0⟩

/-- Plans a failure of the next calls of an operation, after those already planned. -/
def plan (u : Unreliable σ) (operation : Counters.Operation) (cause : StoreError) (times : Nat) :
    Unreliable σ :=
  { u with failures := u.failures.plan operation cause times }

/-- Carries out a call, unless a failure is planned for it. -/
def attempt {α : Type} (u : Unreliable σ) (operation : Counters.Operation)
    (call : Unreliable σ → Except NumberingError α × Unreliable σ) :
    Except NumberingError α × Unreliable σ :=
  match u.failures.next? operation with
  | some (cause, failures) => (.error (.store cause), { u with failures })
  | none => call u

/-- Carries out a call on the place itself. -/
def within {α : Type} (u : Unreliable σ) (call : σ → Except NumberingError α × σ) :
    Except NumberingError α × Unreliable σ :=
  let (r, place) := call u.place
  (r, { u with place })

instance [Counters σ] : Counters (Unreliable σ) where
  increment key amount u :=
    ({ u with increments := u.increments + 1 } : Unreliable σ).attempt .increment fun u =>
      match u.answer with
      | some value => (.ok value, { u with answer := none })
      | none => u.within (Counters.increment key amount)
  set key value u := u.attempt .set fun u => u.within (Counters.set key value)
  current key u := u.attempt .current fun u => u.within (Counters.current key)

end Unreliable

end Tenancy
