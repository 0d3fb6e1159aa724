import Tenancy.Pool.Basic

/-!
# Connections

What a backend has opened. Connections to one database are opened once and closed once, and the
ledger counts both.
-/

namespace Tenancy

/-- Connections to one database. -/
structure Connections where
  database : String
  size : Nat
  closed : Bool
  deriving DecidableEq, Repr, Inhabited

/-- How many connections there are, and what they do. -/
structure ConnectionCount where
  total : Nat
  idle : Nat
  acquired : Nat
  deriving DecidableEq, Repr, Inhabited

/-- Connections that are not closed are all idle. -/
def Connections.count (c : Connections) : ConnectionCount :=
  let total := if c.closed then 0 else c.size
  ⟨total, total, 0⟩

/-- All connections that were ever opened, and how often some were opened and closed. -/
structure Ledger where
  all : List Connections
  opened : Nat
  closed : Nat
  deriving DecidableEq, Repr, Inhabited

namespace Ledger

/-- Nothing was opened yet. -/
def empty : Ledger := ⟨[], 0, 0⟩

/-- The place of the connections that are opened next. -/
def next (l : Ledger) : ConnectionsId := l.all.length

/-- Opens connections. -/
def «open» (l : Ledger) (database : String) (size : Nat) : Ledger :=
  { l with all := l.all ++ [⟨database, size, false⟩], opened := l.opened + 1 }

/-- Whether connections are closed. -/
def isClosed (l : Ledger) (id : ConnectionsId) : Bool :=
  (l.all[id]?).elim true Connections.closed

/-- Closes connections; nothing happens to those that are closed already. -/
def close (l : Ledger) (id : ConnectionsId) : Ledger :=
  if l.isClosed id then l
  else
    { l with
      all := l.all.modify id fun c => { c with closed := true }
      closed := l.closed + 1 }

/-- How many are open. -/
def live (l : Ledger) : Nat := l.opened - l.closed

end Ledger

end Tenancy
