import Tenancy.Proofs.Numbering.Books

/-!
# Services that share one store

Any number of services draw numbers from the counters of one store, each under a strategy of its
own. They are started and discarded, told to forget a tenant, and others use the counters as well;
every interleaving of all this is a list of events. `Sound.step`: whatever happens, the numbers in
memory are words, and strict services have none.
-/

namespace Tenancy

/-- A store whose increments may fail, and the services that share it, by their names. -/
structure Cluster where
  counters : Unreliable Store
  services : Assoc Nat Numbering

namespace Cluster

/-- A store without services. -/
def new (store : Store) : Cluster := ⟨.of store, ∅⟩

/-- What can happen to the services and to their store. -/
inductive Event
  /-- Starts a service; one of the same name is discarded. -/
  | start (service : Nat) (strategy : Strategy)
  | discard (service : Nat)
  | nextValue (service : Nat) (tenant : TenantId) (s : Sequence) (date : Date)
  | nextNumber (service : Nat) (tenant : TenantId) (s : Sequence) (date : Date)
  | peek (service : Nat) (tenant : TenantId) (s : Sequence) (date : Date)
  | override (service : Nat) (tenant : TenantId) (s : Sequence) (date : Date) (value : Nat)
  | forget (service : Nat) (tenant : TenantId)
  /-- Somebody adds to a counter of the store. -/
  | increment (text : String) (amount : Nat)
  /-- Somebody gives a counter of the store a value. -/
  | set (text : String) (value : Nat)
  /-- The next operations of a kind will fail. -/
  | plan (operation : Counters.Operation) (cause : StoreError) (times : Nat)

/-- Carries out an operation of a service, if there is one of this name. -/
def serve (c : Cluster) (service : Nat)
    (operation : Numbering → Unreliable Store → Numbering × Unreliable Store) : Cluster :=
  match c.services.get? service with
  | none => c
  | some n =>
    let (n, counters) := operation n c.counters
    ⟨counters, c.services.insert service n⟩

/-- Changes the store itself. -/
def write (c : Cluster) (f : Store → Store) : Cluster :=
  { c with counters := { c.counters with place := f c.counters.place } }

/-- What the services and the store are after an event. -/
def step (c : Cluster) : Event → Cluster
  | .start service strategy =>
    { c with services := c.services.insert service (.new strategy) }
  | .discard service => { c with services := c.services.erase service }
  | .nextValue service tenant s date =>
    c.serve service fun n counters => (n.nextValue tenant s date counters).2
  | .nextNumber service tenant s date =>
    c.serve service fun n counters => (n.nextNumber tenant s date counters).2
  | .peek service tenant s date =>
    c.serve service fun n counters => (n.peek tenant s date counters).2
  | .override service tenant s date value =>
    c.serve service fun n counters => (n.override tenant s date value counters).2
  | .forget service tenant => c.serve service fun n counters => ((n.forget tenant).2, counters)
  | .increment text amount => c.write fun store => (store.increment text amount).2
  | .set text value => c.write fun store => (store.set text value).2
  | .plan operation cause times =>
    { c with counters := c.counters.plan operation cause times }

/-- What they are after several events. -/
def run (c : Cluster) (events : List Event) : Cluster := events.foldl step c

/-- The value of a counter. -/
def counter (c : Cluster) (k : CounterKey) : Nat := c.counters.counter k

/-- The numbers that a service has in memory for a counter. -/
def heldBy (c : Cluster) (service : Nat) (k : CounterKey) : List Nat :=
  (c.services.get? service).elim [] (·.held k)

/-- The numbers that are in memory for a counter, in any service. -/
def held (c : Cluster) (k : CounterKey) : List Nat :=
  c.services.toList.flatMap fun e => e.2.held k

/-! ### Sound services -/

variable {c : Cluster} {k : CounterKey} {e : Event} {allowed : Strategy → Prop}

/-- No answer of the store is laid down, and every service is sound and has one of the strategies
that are allowed. -/
structure Sound (c : Cluster) (allowed : Strategy → Prop) : Prop where
  answer : c.counters.answer = none
  services : ∀ {service n}, c.services.get? service = some n → n.Sound ∧ allowed n.strategy

/-- Whether an event starts no service but one with a strategy that is allowed. -/
def Event.starts (allowed : Strategy → Prop) : Event → Prop
  | .start _ strategy => allowed strategy
  | _ => True

lemma Sound.serve (h : c.Sound allowed) (service : Nat)
    {operation : Numbering → Unreliable Store → Numbering × Unreliable Store}
    (hop : ∀ n : Numbering, n.Sound → n.Kept (operation n c.counters)) :
    (c.serve service operation).Sound allowed := by
  unfold Cluster.serve
  split
  next => exact h
  next n hn =>
    obtain ⟨hsound, hallowed⟩ := h.services hn
    obtain ⟨hsound', hstrategy, hanswer⟩ := hop n hsound
    refine ⟨hanswer, fun {other n'} hn' => ?_⟩
    simp only [Assoc.get?_insert] at hn'
    split_ifs at hn'
    · cases hn'
      exact ⟨hsound', hstrategy ▸ hallowed⟩
    · exact h.services hn'

lemma Sound.draw (h : c.Sound allowed) (service : Nat) (tenant : TenantId) (s : Sequence)
    (date : Date) :
    (c.serve service fun n counters => (n.nextValue tenant s date counters).2).Sound allowed :=
  h.serve service fun _ hn => Numbering.kept_nextValue hn h.answer tenant s date

lemma step_nextNumber (c : Cluster) (service : Nat) (tenant : TenantId) (s : Sequence)
    (date : Date) :
    c.step (.nextNumber service tenant s date) = c.step (.nextValue service tenant s date) := by
  simp only [step, Numbering.nextNumber_eq]

lemma Sound.step (h : c.Sound allowed) (he : e.starts allowed) : (c.step e).Sound allowed := by
  cases e with
  | start service strategy =>
    refine ⟨h.answer, fun {other n} hn => ?_⟩
    simp only [Cluster.step, Assoc.get?_insert] at hn
    split_ifs at hn
    · cases hn
      exact ⟨Numbering.sound_new strategy, he⟩
    · exact h.services hn
  | discard service =>
    refine ⟨h.answer, fun {other n} hn => ?_⟩
    simp only [Cluster.step, Assoc.get?_erase] at hn
    split_ifs at hn
    exact h.services hn
  | nextValue service tenant s date => exact h.draw service tenant s date
  | nextNumber service tenant s date =>
    rw [step_nextNumber]
    exact h.draw service tenant s date
  | peek service tenant s date =>
    simp only [Cluster.step]
    exact h.serve service fun _ hn => Numbering.kept_peek hn h.answer tenant s date
  | override service tenant s date value =>
    simp only [Cluster.step]
    exact h.serve service fun _ hn => Numbering.kept_override hn h.answer tenant s date value
  | forget service tenant =>
    simp only [Cluster.step]
    exact h.serve service fun _ hn => Numbering.kept_forget hn h.answer tenant
  | increment | set | plan => exact ⟨h.answer, h.services⟩

lemma run_cons (c : Cluster) (e : Event) (events : List Event) :
    c.run (e :: events) = (c.step e).run events := rfl

lemma sound_new (store : Store) (allowed : Strategy → Prop) : (new store).Sound allowed :=
  ⟨rfl, fun {_ _} h => by cases h⟩

end Cluster

end Tenancy
