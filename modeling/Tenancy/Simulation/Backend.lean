import Tenancy.Assoc
import Tenancy.Dsn.Basic
import Tenancy.Manager.Config
import Tenancy.Pool.Connections

/-!
# A backend in memory

Connections that never leave the process. Opening and closing can be made to take time, opening can
be made to fail, and each database can be made to answer pings, to refuse them, or to leave them
without an answer.
-/

namespace Tenancy.Simulation

/-- What a database does with pings. -/
inductive Behavior
  | healthy | failing | hanging
  deriving DecidableEq, Repr, Inhabited

/-- A backend in memory. -/
structure Backend where
  /-- Whether opening is refused. -/
  refuses : Bool
  /-- How long opening takes. -/
  openDelay : Duration
  /-- How long closing takes. -/
  closeDelay : Duration
  /-- What the databases do with pings that do not answer them. -/
  behaviors : Assoc String Behavior
  /-- The counts that databases report in place of their own. -/
  counts : Assoc String ConnectionCount
  /-- The number of pings so far. -/
  pings : Nat
  /-- What was asked to be opened so far, the oldest first. -/
  requests : List (String × OpenSettings)
  deriving Inhabited

namespace Backend

/-- A backend that opens and closes at once, and whose databases answer. -/
def new : Backend := ⟨false, ⟨0⟩, ⟨0⟩, ∅, ∅, 0, []⟩

/-- What a database does with pings. -/
def behavior (b : Backend) (database : String) : Behavior :=
  (b.behaviors.get? database).getD .healthy

/-- The database that a connection string names, which has to be one. -/
def database (dsn : String) : Except OpenFault String :=
  (Dsn.database? dsn).elim (.error (.noDatabase dsn)) .ok

/-- What comes of opening connections to a database: as many as the settings ask for at least. -/
def opened (b : Backend) (database : String) (least : Nat) :
    Except OpenFault (String × Nat) :=
  if b.refuses then .error .refused else .ok (database, least)

/-- The answer to a ping of connections, unless the database leaves it without one. -/
def ping? (b : Backend) (c : Connections) : Option (Except PingFault Unit) :=
  if c.closed then some (.error .closed)
  else
    match b.behavior c.database with
    | .healthy => some (.ok ())
    | .failing => some (.error (.unreachable c.database))
    | .hanging => none

/-- The connections that are reported. -/
def count (b : Backend) (c : Connections) : ConnectionCount :=
  (b.counts.get? c.database).getD c.count

end Backend

end Tenancy.Simulation
