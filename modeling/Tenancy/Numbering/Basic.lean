import Tenancy.Numbering.Counters
import Tenancy.Numbering.Strategy

/-!
# Numbering

Numbers are given out per counter. Under the cached strategy a range of numbers is reserved at
once and handed out from memory; of the counters of one series only the last one that was reserved
for keeps its range.
-/

namespace Tenancy

/-- Numbers that are reserved and not handed out yet. -/
structure Range where
  next : Nat
  remaining : Nat
  deriving DecidableEq, Repr, Inhabited

namespace Range

/-- The range of so many numbers that ends at a value of the counter. -/
def endingAt (ceiling size : Nat) : Range := ⟨ceiling - size + 1, size⟩

/-- Takes the first number of a range, if one remains. -/
def take? (r : Range) : Option (Nat × Range) :=
  if r.remaining = 0 then none
  else some (r.next, ⟨min (r.next + 1) Text.maxWord, r.remaining - 1⟩)

/-- The numbers of a range. -/
def toList (r : Range) : List Nat :=
  List.range' r.next r.remaining

end Range

/-- A strategy, and the ranges that are in memory by the texts of their counters. -/
structure Numbering where
  strategy : Strategy
  ranges : Assoc String Range
  deriving Repr

namespace Numbering

variable {σ : Type} [Counters σ]

/-- A numbering with nothing in memory. -/
def new (strategy : Strategy) : Numbering := ⟨strategy, ∅⟩

/-- Draws a number from the range in memory. -/
def draw? (n : Numbering) (key : CounterKey) : Option (Nat × Numbering) := do
  let range ← n.ranges.get? key.text
  let (value, rest) ← range.take?
  return (value, { n with ranges := n.ranges.insert key.text rest })

/-- Keeps the range of a counter, and gives up those of the other counters of its series. -/
def keep (n : Numbering) (key : CounterKey) (range : Range) : Numbering :=
  { n with
    ranges := (n.ranges.filter fun k _ => !key.seriesScope.isPrefixOf k.toList).insert
      key.text range }

/-- Reserves a range and draws its first number. If the reservation fails, nothing changes. -/
def reserve (n : Numbering) (key : CounterKey) (size : Nat) (counters : σ) :
    Except NumberingError Nat × Numbering × σ :=
  match Counters.increment key size counters with
  | (.error e, counters) => (.error e, n, counters)
  | (.ok ceiling, counters) =>
    match (Range.endingAt ceiling size).take? with
    | none => (.error (.overflow key), n, counters)
    | some (value, rest) => (.ok value, n.keep key rest, counters)

/-- The next number of a counter. -/
def allocate (n : Numbering) (key : CounterKey) (counters : σ) :
    Except NumberingError Nat × Numbering × σ :=
  match n.strategy with
  | .strict =>
    let (r, counters) := Counters.increment key 1 counters
    (r, n, counters)
  | .cached size _ =>
    match n.draw? key with
    | some (value, n) => (.ok value, n, counters)
    | none => n.reserve key size counters

/-- Carries out `body` with the counter of a sequence for a tenant and a date, if the three are
well formed. -/
def withKey {α : Type} (n : Numbering) (tenant : TenantId) (s : Sequence) (date : Date)
    (counters : σ) (body : CounterKey → Except NumberingError α × Numbering × σ) :
    Except NumberingError α × Numbering × σ :=
  match CounterKey.make tenant s date with
  | .error e => (.error (.sequence e), n, counters)
  | .ok key => body key

/-- The next number of a sequence. -/
def nextValue (n : Numbering) (tenant : TenantId) (s : Sequence) (date : Date) (counters : σ) :
    Except NumberingError Nat × Numbering × σ :=
  n.withKey tenant s date counters fun key => n.allocate key counters

/-- So many numbers of a sequence, one after another. -/
def nextValues (n : Numbering) (tenant : TenantId) (s : Sequence) (date : Date) :
    Nat → σ → List (Except NumberingError Nat) × Numbering × σ
  | 0, counters => ([], n, counters)
  | times + 1, counters =>
    let (r, n, counters) := n.nextValue tenant s date counters
    let (rest, n, counters) := n.nextValues tenant s date times counters
    (r :: rest, n, counters)

/-- The text of the next number of a sequence. -/
def nextNumber (n : Numbering) (tenant : TenantId) (s : Sequence) (date : Date) (counters : σ) :
    Except NumberingError String × Numbering × σ :=
  n.withKey tenant s date counters fun key =>
    let (r, n, counters) := n.allocate key counters
    (r.map (s.format key.period), n, counters)

/-- Gives a counter a value, so that the next number is greater. The range in memory is given up,
unless the counter could not be written. -/
def override (n : Numbering) (tenant : TenantId) (s : Sequence) (date : Date) (value : Nat)
    (counters : σ) : Except NumberingError Unit × Numbering × σ :=
  n.withKey tenant s date counters fun key =>
    match Counters.set key value counters with
    | (.error e, counters) => (.error e, n, counters)
    | (.ok (), counters) =>
      (.ok (), { n with ranges := n.ranges.erase key.text }, counters)

/-- The value of a counter. Under the cached strategy it is the end of the last range that was
reserved. -/
def peek (n : Numbering) (tenant : TenantId) (s : Sequence) (date : Date) (counters : σ) :
    Except NumberingError Nat × Numbering × σ :=
  n.withKey tenant s date counters fun key =>
    let (r, counters) := Counters.current key counters
    (r, n, counters)

/-- Gives up all ranges of a tenant, and tells how many there were. -/
def forget (n : Numbering) (tenant : TenantId) : Nat × Numbering :=
  let ranges := n.ranges.filter fun k _ => !(CounterKey.tenantScope tenant).isPrefixOf k.toList
  (n.ranges.size - ranges.size, { n with ranges })

/-- A numbering as diagnostics show it. -/
def label (n : Numbering) : String :=
  "NumberingService \x7b strategy: " ++ n.strategy.label ++ ", .. \x7d"

end Numbering

end Tenancy
