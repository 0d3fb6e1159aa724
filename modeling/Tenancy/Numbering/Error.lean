import Tenancy.Pool.Error
import Tenancy.Sequence.Basic

/-!
# Faults of numbering

Why no number was given out: the sequence or its counter is not well formed, the settings are
refused, or the place where counters are kept failed.
-/

namespace Tenancy

/-- Why no number was given out. -/
inductive NumberingError
  | sequence (fault : SequenceError)
  | unknownStrategy (name : String)
  | emptyRange
  | overflow (key : CounterKey)
  | store (cause : StoreError)
  | pool (cause : PoolError)
  deriving DecidableEq, Repr

namespace NumberingError

/-- What kind of thing is at fault. -/
inductive Subject
  | settings | key | counter | store | pool
  deriving DecidableEq, Repr

/-- The kind of thing that is at fault. -/
def subject : NumberingError → Subject
  | .sequence (.badTenant _) => .key
  | .sequence _ => .settings
  | .unknownStrategy _ => .settings
  | .emptyRange => .settings
  | .overflow _ => .counter
  | .store _ => .store
  | .pool _ => .pool

/-- The text of a fault without the kind of thing that is at fault. -/
def detail : NumberingError → String
  | .sequence fault => fault.message
  | .unknownStrategy name => "unknown numbering strategy '" ++ name ++ "'"
  | .emptyRange => "range_size must be at least 1"
  | .overflow key => key.text
  | .store cause => cause.message
  | .pool cause => cause.message

/-- The text of a fault. -/
def message (e : NumberingError) : String :=
  match e.subject with
  | .settings => "invalid sequence configuration: " ++ e.detail
  | .key => "invalid sequence key: " ++ e.detail
  | .counter => "sequence " ++ e.detail ++ " overflowed"
  | .store => "counter store error: " ++ e.detail
  | .pool => "tenant pool error: " ++ e.detail

end NumberingError

end Tenancy
