import Tenancy.Pool.Basic
import Tenancy.Text.Decimal

/-!
# Words of a pool

What changes of a pool while many use it is kept in three words of 64 bits. Times are nanoseconds
since the manager was made, as far as a word goes, and one is added to a count whether or not it
still fits. Zero in place of a time stands for none.
-/

namespace Tenancy.Pool

/-- The words of a pool. -/
structure Words where
  lastUsed : UInt64
  refs : UInt64
  /-- When the first ping failed of those since the last one that succeeded, or zero. -/
  unhealthySince : UInt64
  deriving DecidableEq, Repr, Inhabited

namespace Words

/-- A time, or the greatest word if it is later. -/
def time (now : Nat) : UInt64 := .ofNat (min now Text.maxWord)

/-- The words of a pool that nobody holds. -/
def new (now : Nat) : Words := ⟨time now, 0, 0⟩

/-- Whether the last ping failed. -/
def isUnhealthy (w : Words) : Bool := w.unhealthySince ≠ 0

/-- When the first ping failed of those since the last one that succeeded. -/
def unhealthySince? (w : Words) : Option Nat :=
  if w.isUnhealthy then some w.unhealthySince.toNat else none

/-- Counts as a use. -/
def touch (w : Words) (now : Nat) : Words :=
  { w with lastUsed := max w.lastUsed (time now) }

/-- One more holds the pool. -/
def acquire (w : Words) (now : Nat) : Words :=
  { w with refs := w.refs + 1 }.touch now

/-- One fewer holds the pool, if anybody does. It counts as a use all the same. -/
def release (w : Words) (now : Nat) : Words :=
  { w with refs := if w.refs = 0 then 0 else w.refs - 1 }.touch now

/-- Records a failed ping, and tells whether it is the first one in a row. As zero stands for none,
a failure at the time zero counts as one at the first nanosecond. -/
def markUnhealthy (w : Words) (now : Nat) : Bool × Words :=
  if w.isUnhealthy then (false, w)
  else (true, { w with unhealthySince := max (time now) 1 })

/-- Records a ping that succeeded, and tells whether the one before it failed. -/
def markHealthy (w : Words) : Bool × Words :=
  (w.isUnhealthy, { w with unhealthySince := 0 })

end Words

end Tenancy.Pool
