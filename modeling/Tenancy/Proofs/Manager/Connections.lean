import Tenancy.Proofs.Manager.Closing
import Tenancy.Proofs.Manager.Entries
import Tenancy.Proofs.Manager.Slots

/-!
# Who holds connections

Every open connection is held by one: by a pool in use, by a task that tries it with a first ping,
or by a task that waits until it is closed. `booked_run` says so of every run in which no task is
cancelled. Over a backend in memory nothing waits for connections to be closed, and what is open is
counted by the pools in use and the tasks that ping: `live_runInMemory`.
-/

namespace Tenancy.Manager

variable {m m₁ m' : Manager} {task : TaskId} {o : Origin} {s : Stage}

/-! ### What a task does with connections -/

/-- Whether a task opens connections or tries them with a first ping. -/
def Stage.isConnecting : Stage → Bool
  | .opening _ _ _ _ | .pinging _ _ _ _ _ => true
  | _ => false

/-- Whether the task opens connections or tries them with a first ping. -/
def Origin.isConnecting : Origin → Bool
  | .call _ => false
  | .stage s => s.isConnecting

/-- Whether the task waits for connections to be closed. -/
def Origin.isClosing : Origin → Bool
  | .call _ => false
  | .stage s => s.isClosing

/-- What a task does that takes up at `o`, with regard to connections. Tasks that do not handle any
leave the ledger alone. -/
inductive Handling (m : Manager) (task : TaskId) : Origin → Manager → Prop
  | stayed {o : Origin} : Handling m task o m
  | opened {d t record deadline} (database : String) (size : Nat) :
      Handling m task (.stage (.opening d t record deadline))
        ({ m with ledger := m.ledger.open database size }.await task
          (.pinging d t record m.ledger.next m.connectDeadline))
  | failed {d t record deadline e} :
      Handling m task (.stage (.opening d t record deadline)) (m.giveUp task d e)
  | rejected {d t record id deadline fault} :
      Handling m task (.stage (.pinging d t record id deadline))
        (m.await task (.rejecting d t id fault))
  | entered {d t record id deadline} :
      Handling m task (.stage (.pinging d t record id deadline)) (m.enter task d t record id)
  | closed {s : Stage} {m' : Manager} (hs : s.isClosing = true)
      (h : Move (m.closeHeld s) task (.stage s) m')
      (hl : m'.ledger = (m.closeHeld s).ledger) (hne : m'.tasks.get? task ≠ some s) :
      Handling m task (.stage s) m'
  | passed {o : Origin} {m' : Manager} (hn : o.isConnecting = false) (hc : o.isClosing = false)
      (h : Move m task o m') (hl : m'.ledger = m.ledger) : Handling m task o m'

namespace Handling

lemma of_afterFirstPing {d : Demand} {t : TenantId} {record : Tenant} {id : ConnectionsId}
    {deadline : Nat} (result : Except PingFault Unit) :
    Handling m task (.stage (.pinging d t record id deadline))
      (m.afterFirstPing task d t record id result) := by
  cases result with
  | error fault => exact .rejected
  | ok _ => exact .entered

lemma of_answer_closed (hs : s.isClosing = true)
    (hl : (m.answer task s .closed).ledger = (m.closeHeld s).ledger) :
    Handling m task (.stage s) (m.answer task s .closed) :=
  .closed hs (Move.of_answer_closed hs) hl fun h => (backlog_answer_closed hs h).ne rfl

lemma of_call (hf : m.Fresh) (request : Request) :
    Handling { m with nextTask := m.nextTask + 1 } m.nextTask (.call request) (m.call request) :=
  .passed rfl rfl (Move.of_call hf request) (ledger_call m request)

theorem of_answer (hf : m.Fresh) (s : Stage) (a : Answer) :
    Handling m task (.stage s) (m.answer task s a) := by
  have hm : Move m task (.stage s) (m.answer task s a) := Move.of_answer hf s a
  revert hm
  unfold answer
  split
  next => exact fun hm => .passed rfl rfl hm (by simp)
  next result =>
    intro _
    cases result with
    | error fault => exact .failed
    | ok opened => exact .opened opened.1 opened.2
  next =>
    intro _
    split
    next => exact .failed
    next => exact .stayed
  next => exact fun _ => of_afterFirstPing _
  next =>
    intro _
    split
    next => exact of_afterFirstPing _
    next => exact .stayed
  next =>
    intro _
    apply of_answer_closed rfl
    simp [answer, afterRejecting, closeHeld, Stage.connections?]
  next =>
    intro _
    apply of_answer_closed rfl
    simp [answer, afterYielding, closeHeld, Stage.connections?]
  next t id reason next =>
    intro _
    apply of_answer_closed rfl
    simp only [answer, afterClosing_eq]
    cases next <;> simp
  next => exact fun hm => .passed rfl rfl hm (by simp)
  next => exact fun hm => .passed rfl rfl hm (by simp)
  next => exact fun hm => .passed rfl rfl hm (by simp)
  next => exact fun hm => .passed rfl rfl hm rfl
  next => exact fun hm => .passed rfl rfl hm rfl
  next => exact fun hm => .passed rfl rfl hm (by split <;> rfl)
  next => exact fun hm => .passed rfl rfl hm (by simp)
  next => exact fun hm => .passed rfl rfl hm (by simp)
  next => exact fun hm => .passed rfl rfl hm (by split <;> simp)
  next => exact fun hm => .passed rfl rfl hm (by split <;> simp)
  next => exact fun hm => .passed rfl rfl hm (by simp)
  next => exact fun hm => .passed rfl rfl hm (by split <;> simp)
  next => exact fun hm => .passed rfl rfl hm (by split <;> rfl)
  next => exact fun _ => .stayed

end Handling

/-! ### What is held -/

/-- The connections of pools in use, and those that tasks hold. -/
def holdings (ofPool : PoolId → Option ConnectionsId) (entries : Assoc TenantId PoolId)
    (tasks : Assoc TaskId Stage) : List ConnectionsId :=
  entries.collect ofPool ++ tasks.collect (Stage.connections? ofPool)

/-- The connections that somebody holds. -/
def held (m : Manager) : List ConnectionsId := holdings m.connectionsOf m.entries m.tasks

/-- The connections that somebody holds beside one of the tasks. -/
def heldBeside (m : Manager) (task : TaskId) : List ConnectionsId :=
  holdings m.connectionsOf m.entries (m.tasks.erase task)

/-- The connections that a task holds which takes up here. -/
def Origin.connections? (ofPool : PoolId → Option ConnectionsId) :
    Origin → Option ConnectionsId
  | .call _ => none
  | .stage s => s.connections? ofPool

section Holdings

variable {ofPool ofPool' : PoolId → Option ConnectionsId} {entries : Assoc TenantId PoolId}
  {tasks : Assoc TaskId Stage} {t : TenantId} {id : PoolId}

lemma holdings_insert_task (s : Stage) :
    (holdings ofPool entries (tasks.insert task s)).Perm
      ((s.connections? ofPool).toList ++ holdings ofPool entries (tasks.erase task)) := by
  rw [holdings, Assoc.collect_insert, ← List.append_assoc]
  exact List.perm_append_comm

lemma holdings_of_task (h : tasks.get? task = some s) :
    (holdings ofPool entries tasks).Perm
      ((s.connections? ofPool).toList ++ holdings ofPool entries (tasks.erase task)) := by
  have hperm := Assoc.collect_perm h (Stage.connections? ofPool)
  refine (hperm.append_left (entries.collect ofPool)).trans ?_
  rw [← List.append_assoc]
  refine (List.perm_append_comm.append_right _).trans ?_
  rw [List.append_assoc, holdings]

lemma holdings_of_entry (ofPool : PoolId → Option ConnectionsId) (tasks : Assoc TaskId Stage)
    (h : entries.get? t = some id) :
    (holdings ofPool entries tasks).Perm
      ((ofPool id).toList ++ holdings ofPool (entries.erase t) tasks) := by
  have hperm := Assoc.collect_perm h ofPool
  rw [holdings, holdings, ← List.append_assoc]
  exact hperm.append_right _

lemma holdings_congr (he : ∀ t id, entries.get? t = some id → ofPool id = ofPool' id)
    (ht : ∀ k t id reason next, tasks.get? k = some (.closing t id reason next) →
      ofPool id = ofPool' id) :
    holdings ofPool entries tasks = holdings ofPool' entries tasks := by
  rw [holdings, holdings, Assoc.collect_congr he]
  congr 1
  apply Assoc.collect_congr
  intro k s hs
  cases s with
  | closing t id reason next => exact ht k t id reason next hs
  | _ => rfl

end Holdings

lemma Stage.connections?_of_isPlain (h : s.isPlain = true)
    (ofPool : PoolId → Option ConnectionsId) : s.connections? ofPool = none := by
  cases s <;> simp_all [isPlain, connections?]

lemma Origin.connections?_eq_none (hn : o.isConnecting = false) (hc : o.isClosing = false)
    (ofPool : PoolId → Option ConnectionsId) : o.connections? ofPool = none := by
  cases o with
  | call => rfl
  | stage s =>
    cases s <;> simp_all [isConnecting, isClosing, Stage.isConnecting, Stage.isClosing,
      connections?, Stage.connections?]

lemma Stage.isConnecting_of_isClosing (h : s.isClosing = true) : s.isConnecting = false := by
  cases s <;> simp_all [isConnecting, isClosing]

lemma connectionsOf_modifyPool (m : Manager) (id : PoolId) {f : Pool → Pool}
    (hf : ∀ p, (f p).connections = p.connections) :
    (m.modifyPool id f).connectionsOf = m.connectionsOf := by
  funext i
  simp only [connectionsOf, modifyPool, List.getElem?_modify]
  cases m.pools[i]? with
  | none => rfl
  | some p => by_cases h : id = i <;> simp [h, hf]

lemma connectionsOf_lend (m : Manager) (task : TaskId) (id : PoolId) :
    (m.lend task id).connectionsOf = m.connectionsOf :=
  connectionsOf_modifyPool m id (f := (·.acquire m.now)) fun _ => rfl

lemma connectionsOf_beginClose (m : Manager) (task : TaskId) (t : TenantId) (id : PoolId)
    (reason : String) (next : Next) :
    (m.beginClose task t id reason next).connectionsOf = m.connectionsOf :=
  connectionsOf_modifyPool m id (f := fun p => { p with closed := true }) fun _ => rfl

lemma Quiet.connectionsOf_eq (q : m.Quiet m₁) : m₁.connectionsOf = m.connectionsOf := by
  funext id
  have h := congrArg (Option.map fun standing => standing.2.1) (q.getElem?_standing id)
  simp only [Option.map_map] at h
  exact h

lemma Quiet.heldBeside_eq (q : m.Quiet m₁) (task : TaskId) :
    m₁.heldBeside task = m.heldBeside task := by
  obtain ⟨started, hs, hq⟩ := q.tasks
  have hnone : (started.filter fun e => e.1 ≠ task).filterMap
      (fun e => e.2.connections? m.connectionsOf) = [] := by
    rw [List.filterMap_eq_nil_iff]
    intro e he
    have hqueued := (hq e (List.mem_filter.1 he).1).2.2
    exact Stage.connections?_of_isPlain (Stage.isPlain_of_isQueued hqueued) _
  rw [heldBeside, heldBeside, q.connectionsOf_eq, q.entries, holdings, holdings, Assoc.collect,
    Assoc.collect, Assoc.collect, Assoc.toList_erase, hs, List.filter_append,
    List.filterMap_append, hnone, List.append_nil, Assoc.toList_erase]

/-- What is held before a task goes on. -/
lemma held_perm (hat : o.At m task) :
    m.held.Perm ((o.connections? m.connectionsOf).toList ++ m.heldBeside task) := by
  cases o with
  | call request =>
    rw [heldBeside, holdings, Assoc.collect_erase_of_none hat]
    exact .refl _
  | stage s => exact holdings_of_task hat

/-! ### What a move does to it -/

/-- Every pool that is being closed was put to use. -/
def ClosesKnown (m : Manager) : Prop :=
  ∀ k t id reason next, m.tasks.get? k = some (.closing t id reason next) → id < m.pools.length

lemma held_await (m : Manager) (task : TaskId) (s : Stage) :
    (m.await task s).held.Perm
      ((s.connections? m.connectionsOf).toList ++ m.heldBeside task) :=
  holdings_insert_task s

lemma held_lend (m : Manager) (task : TaskId) (id : PoolId) :
    (m.lend task id).held = m.heldBeside task := by
  rw [held, connectionsOf_lend]
  rfl

lemma held_beginClose {t : TenantId} {id : PoolId} (h : m.entries.get? t = some id)
    (task : TaskId) (reason : String) (next : Next) :
    (m.beginClose task t id reason next).held.Perm (m.heldBeside task) := by
  rw [held, connectionsOf_beginClose, heldBeside]
  have hentry := holdings_of_entry m.connectionsOf (m.tasks.erase task) h
  exact (holdings_insert_task _).trans hentry.symm

lemma connectionsOf_enroll_of_lt {t : TenantId} {record : Tenant} {id : ConnectionsId}
    {pool : PoolId} (h : pool < m.pools.length) :
    (m.enroll t record id).connectionsOf pool = m.connectionsOf pool := by
  simp only [connectionsOf, enroll, List.getElem?_append_left h]

lemma connectionsOf_enroll_length (m : Manager) (t : TenantId) (record : Tenant)
    (id : ConnectionsId) : (m.enroll t record id).connectionsOf m.pools.length = some id := by
  simp [connectionsOf, enroll, Pool.new]

lemma heldBeside_enroll {t : TenantId} (hnone : m.entries.get? t = none)
    (hmap : Mapped m.entries m.pools) (hknown : m.ClosesKnown) (task : TaskId) (record : Tenant)
    (id : ConnectionsId) :
    ((m.enroll t record id).heldBeside task).Perm (id :: m.heldBeside task) := by
  have hget : (m.entries.insert t m.pools.length).get? t = some m.pools.length := by
    simp [Assoc.get?_insert]
  have hperm : ((m.enroll t record id).heldBeside task).Perm
      (id :: holdings (m.enroll t record id).connectionsOf
        ((m.entries.insert t m.pools.length).erase t) (m.tasks.erase task)) := by
    have h := holdings_of_entry (m.enroll t record id).connectionsOf (m.tasks.erase task) hget
    rwa [connectionsOf_enroll_length] at h
  have hself : holdings (m.enroll t record id).connectionsOf
      ((m.entries.insert t m.pools.length).erase t) (m.tasks.erase task) =
        holdings (m.enroll t record id).connectionsOf m.entries (m.tasks.erase task) := by
    simp only [holdings, Assoc.collect, Assoc.toList_erase_insert hnone]
  have hsame : holdings (m.enroll t record id).connectionsOf m.entries (m.tasks.erase task) =
      m.heldBeside task := by
    apply holdings_congr
    · intro t' pool ht'
      exact connectionsOf_enroll_of_lt (hmap.lt_length ht')
    · intro k t' pool reason next hk
      rw [Assoc.get?_erase] at hk
      split_ifs at hk
      exact connectionsOf_enroll_of_lt (hknown k t' pool reason next hk)
  rwa [hself, hsame] at hperm

lemma held_enter (hmap : Mapped m.entries m.pools) (hknown : m.ClosesKnown) (task : TaskId)
    (d : Demand) (t : TenantId) (record : Tenant) (id : ConnectionsId) :
    (m.enter task d t record id).held.Perm (id :: m.heldBeside task) := by
  unfold enter
  split
  next winner _ => exact held_await m.giveSlot task _
  next hnone =>
    have hbeside := heldBeside_enroll hnone hmap hknown task record id
    simp only
    split
    next =>
      have hget : (m.enroll t record id).entries.get? t = some m.pools.length := by
        simp [enroll, Assoc.get?_insert]
      exact (held_beginClose hget task _ _).trans hbeside
    next =>
      have hdeliver : ((m.enroll t record id).deliver task d t m.pools.length).held =
          (m.enroll t record id).heldBeside task := by
        rw [Move.deliver_enroll]
        cases d with
        | get | warm => rfl
        | lease => exact held_lend (m.enroll t record id) task m.pools.length
      exact (List.Perm.of_eq hdeliver).trans hbeside

/-- A task that does not connect holds no connections when it has moved. -/
lemma Move.held_perm (h : Move m task o m') (ho : o.isConnecting = false) :
    m' = m ∨ m'.held.Perm (m.heldBeside task) := by
  cases h with
  | stay => exact .inl rfl
  | @wait m₁ s q hl =>
    right
    rw [← q.heldBeside_eq task]
    refine (held_await m₁ task s).trans (.of_eq ?_)
    cases hl with
    | opening => rfl
    | pinging | rejecting => cases ho
    | plain _ hs => rw [Stage.connections?_of_isPlain hs, Option.toList_none, List.nil_append]
  | leave q _ | finish q _ _ | report q _ | hand q _ _ _ =>
    exact .inr (.of_eq (q.heldBeside_eq task))
  | @giveUp _ d _ _ q _ _ => cases d <;> exact .inr (.of_eq (q.heldBeside_eq task))
  | lend q _ _ _ => exact .inr (.of_eq ((held_lend _ task _).trans (q.heldBeside_eq task)))
  | @reserve m₁ d t q _ _ _ _ _ =>
    right
    rw [← q.heldBeside_eq task]
    exact held_await m₁.takeSlot task _
  | yield _ ho' _ | enter _ ho' _ _ | withdraw _ ho' _ _ =>
    subst ho'
    cases ho
  | close q _ ht _ =>
    right
    rw [← q.heldBeside_eq task]
    exact held_beginClose ht task _ _

/-! ### What every event preserves -/

lemma length_pools_enroll (m : Manager) (t : TenantId) (record : Tenant) (id : ConnectionsId) :
    (m.enroll t record id).pools.length = m.pools.length + 1 := by
  simp [enroll]

lemma length_pools_lend (m : Manager) (task : TaskId) (id : PoolId) :
    (m.lend task id).pools.length = m.pools.length :=
  List.length_modify ..

lemma length_pools_beginClose (m : Manager) (task : TaskId) (t : TenantId) (id : PoolId)
    (reason : String) (next : Next) :
    (m.beginClose task t id reason next).pools.length = m.pools.length :=
  List.length_modify ..

namespace ClosesKnown

lemma quiet (q : m.Quiet m₁) (h : m.ClosesKnown) : m₁.ClosesKnown := by
  intro k t id reason next hk
  rw [q.length_pools]
  rcases q.get?_or_queued hk with hk | ⟨-, hqueued⟩
  · exact h k t id reason next hk
  · cases hqueued

lemma erase (h : m.ClosesKnown) (htasks : m'.tasks = m.tasks.erase task)
    (hpools : m.pools.length ≤ m'.pools.length) : m'.ClosesKnown := by
  intro k t id reason next hk
  rw [htasks, Assoc.get?_erase] at hk
  split_ifs at hk
  exact (h k t id reason next hk).trans_le hpools

lemma insert (h : m.ClosesKnown) (htasks : m'.tasks = m.tasks.insert task s)
    (hpools : m.pools.length ≤ m'.pools.length)
    (hs : ∀ t id reason next, s = .closing t id reason next → id < m'.pools.length) :
    m'.ClosesKnown := by
  intro k t id reason next hk
  rw [htasks, Assoc.get?_insert] at hk
  split_ifs at hk
  · cases hk
    exact hs t id reason next rfl
  · exact (h k t id reason next hk).trans_le hpools

lemma move (hm : Move m task o m') (hmap : Mapped m.entries m.pools) (h : m.ClosesKnown) :
    m'.ClosesKnown := by
  cases hm with
  | stay => exact h
  | wait q hl =>
    refine (h.quiet q).insert rfl le_rfl ?_
    rintro t id reason next rfl
    cases hl with
    | plain _ hs => cases hs
  | leave q _ | finish q _ _ | report q _ | hand q _ _ _ => exact (h.quiet q).erase rfl le_rfl
  | @giveUp _ d _ _ q _ _ => cases d <;> exact (h.quiet q).erase rfl le_rfl
  | lend q _ _ _ => exact (h.quiet q).erase rfl (length_pools_lend _ _ _).ge
  | reserve q _ _ _ _ _ | yield q _ _ =>
    refine (h.quiet q).insert rfl le_rfl ?_
    intro t id reason next heq
    cases heq
  | @enter m₁ d t record connections _ q _ _ _ =>
    have hle := (length_pools_enroll m₁ t record connections).ge.trans' (Nat.le_succ _)
    rw [Move.deliver_enroll]
    cases d with
    | get | warm => exact (h.quiet q).erase rfl hle
    | lease => exact (h.quiet q).erase rfl (hle.trans (length_pools_lend _ _ _).ge)
  | @withdraw m₁ d t record connections _ reason q _ _ _ =>
    refine (h.quiet q).insert rfl ?_ ?_
    · rw [length_pools_beginClose, length_pools_enroll]
      exact Nat.le_succ _
    · intro t' id reason' next heq
      cases heq
      rw [length_pools_beginClose, length_pools_enroll]
      exact Nat.lt_succ_self _
  | close q _ ht _ =>
    refine (h.quiet q).insert rfl (length_pools_beginClose _ _ _ _ _ _).ge ?_
    intro t' id' reason' next' heq
    cases heq
    rw [length_pools_beginClose]
    exact (hmap.quiet q).lt_length ht

lemma turn {e : Event} (ht : Turn m e m') (hmap : Mapped m.entries m.pools)
    (h : m.ClosesKnown) : m'.ClosesKnown := by
  cases ht with
  | act _ q _ _ hm => exact (h.quiet q).move hm (hmap.quiet q)
  | aside _ q => exact h.quiet q
  | acquire | release | drop _ =>
    intro k t id reason next hk
    simpa [modifyPool] using h k t id reason next hk
  | cancel =>
    intro k t id reason next hk
    simp only [Assoc.get?_filter] at hk
    exact h k t id reason next (Option.eq_some_of_filter_eq_some hk)

end ClosesKnown

lemma closesKnown_run (c : Config) (events : List Event) : ((new c).run events).ClosesKnown := by
  have h : Mapped ((new c).run events).entries ((new c).run events).pools ∧
      ((new c).run events).ClosesKnown := by
    refine run_induction (I := fun m => Mapped m.entries m.pools ∧ m.ClosesKnown)
      (A := fun _ => True) (fun ht _ h _ => ⟨h.1.turn ht, h.2.turn ht h.1⟩) (fresh_new c)
      ⟨mapped_run c [], ?_⟩ fun _ _ => trivial
    intro k t id reason next hk
    cases hk
  exact h.2

/-- The counts of the ledger are exact, and the open connections are those that somebody holds. -/
structure Booked (m : Manager) : Prop where
  wellKept : m.ledger.WellKept
  held : m.held.Perm m.ledger.openIds

/-- The counts of the ledger are exact, and the open connections are those that somebody holds, and
`strays`. -/
structure BookedWith (m : Manager) (strays : List ConnectionsId) : Prop where
  wellKept : m.ledger.WellKept
  held : (m.held ++ strays).Perm m.ledger.openIds

variable {strays : List ConnectionsId}

lemma booked_iff : m.Booked ↔ m.BookedWith [] := by
  constructor
  · exact fun h => ⟨h.wellKept, by simpa using h.held⟩
  · exact fun h => ⟨h.wellKept, by simpa using h.held⟩

lemma BookedWith.of_eq (h : m.BookedWith strays) (hl : m'.ledger = m.ledger)
    (hh : m'.held.Perm m.held) : m'.BookedWith strays := by
  refine ⟨hl ▸ h.wellKept, ?_⟩
  rw [hl]
  exact (hh.append_right strays).trans h.held

/-- A task that waits for connections to be closed holds those. -/
lemma ClosesKnown.exists_connections (h : m.ClosesKnown) (hs : m.tasks.get? task = some s)
    (hc : s.isClosing = true) : ∃ id, s.connections? m.connectionsOf = some id := by
  cases s with
  | rejecting d t id fault => exact ⟨id, rfl⟩
  | yielding d t id winner => exact ⟨id, rfl⟩
  | closing t id reason next =>
    have hlt := h task t id reason next hs
    exact ⟨m.pools[id].connections, by simp [Stage.connections?, connectionsOf, hlt]⟩
  | _ => cases hc

theorem Handling.booked (h : Handling m task o m') (hat : o.At m task)
    (hmap : Mapped m.entries m.pools) (hknown : m.ClosesKnown) (hb : m.BookedWith strays) :
    m'.BookedWith strays := by
  have hperm := held_perm hat
  cases h with
  | stayed => exact hb
  | @opened d t record deadline database size =>
    -- The new connections are held by the task that opened them.
    have hheld : m.held.Perm (m.heldBeside task) := hperm
    refine ⟨Ledger.wellKept_open hb.wellKept database size, ?_⟩
    rw [ledger_await, Ledger.openIds_open]
    refine ((held_await { m with ledger := _ } task _).append_right strays).trans ?_
    refine (((hheld.symm.append_right strays).trans hb.held).cons _).trans ?_
    exact (List.perm_append_singleton _ _).symm
  | @failed d t record deadline e =>
    refine hb.of_eq (ledger_giveUp m task d e) ?_
    cases d <;> exact hperm.symm
  | rejected => exact hb.of_eq rfl ((held_await m task _).trans hperm.symm)
  | entered =>
    exact hb.of_eq (ledger_enter m task _ _ _ _)
      ((held_enter hmap hknown task _ _ _ _).trans hperm.symm)
  | @closed s _ hs hmove hl hne =>
    -- The task no longer holds the connections, and they are closed.
    obtain ⟨id, hid⟩ := hknown.exists_connections hat hs
    have hledger : (m.closeHeld s).ledger = m.ledger.close id := by simp [closeHeld, hid]
    have hopen : m.ledger.openIds.Perm (id :: (m.heldBeside task ++ strays)) := by
      have h := hb.held.symm.trans (hperm.append_right strays)
      rwa [Origin.connections?, hid] at h
    have hnotClosed : m.ledger.isClosed id = false := by
      rw [← Ledger.mem_openIds, hopen.mem_iff]
      exact List.mem_cons_self
    have hrest := (Ledger.openIds_close hnotClosed).symm.trans hopen
    have hbeside : m'.held.Perm (m.heldBeside task) := by
      rcases hmove.held_perm (Stage.isConnecting_of_isClosing hs) with rfl | h
      · exact absurd hat hne
      · exact h
    refine ⟨?_, ?_⟩
    · rw [hl, hledger]
      exact Ledger.wellKept_close hb.wellKept id
    · rw [hl, hledger]
      exact (hbeside.append_right strays).trans ((List.perm_cons id).1 hrest).symm
  | passed hn hc hmove hl =>
    refine hb.of_eq hl ?_
    rcases hmove.held_perm hn with rfl | h
    · exact .refl _
    · rw [Origin.connections?_eq_none hn hc] at hperm
      exact h.trans hperm.symm

lemma BookedWith.modifyPool (h : m.BookedWith strays) (id : PoolId) {f : Pool → Pool}
    (hf : ∀ p, (f p).connections = p.connections) : (m.modifyPool id f).BookedWith strays := by
  refine h.of_eq rfl (.of_eq ?_)
  rw [Manager.held, connectionsOf_modifyPool m id hf]
  rfl

theorem BookedWith.step (hf : m.Fresh) (hmap : Mapped m.entries m.pools) (hknown : m.ClosesKnown)
    (hb : m.BookedWith strays) {e : Event} (he : e.isCancel = false) :
    (m.step e).BookedWith strays := by
  cases e with
  | call request =>
    -- The number of the next task has nothing to do with connections.
    have hb₀ : BookedWith { m with nextTask := m.nextTask + 1 } strays := ⟨hb.wellKept, hb.held⟩
    exact (Handling.of_call hf request).booked hf.get?_nextTask hmap hknown hb₀
  | resume task a =>
    simp only [Manager.step, resume]
    split
    next s hs => exact (Handling.of_answer hf s a).booked hs hmap hknown hb
    next => exact hb
  | advance nanos => exact ⟨hb.wellKept, hb.held⟩
  | drop lease =>
    simp only [Manager.step, dropLease]
    split
    next id _ =>
      have hb' := hb.modifyPool id (f := (·.release m.now)) fun _ => rfl
      exact ⟨hb'.wellKept, hb'.held⟩
    next => exact hb
  | touch id | acquire id | release id => exact hb.modifyPool id fun _ => rfl
  | cancel task => cases he

theorem Booked.step (hf : m.Fresh) (hmap : Mapped m.entries m.pools) (hknown : m.ClosesKnown)
    (hb : m.Booked) {e : Event} (he : e.isCancel = false) : (m.step e).Booked :=
  booked_iff.2 ((booked_iff.1 hb).step hf hmap hknown he)

theorem booked_run (c : Config) {events : List Event} (h : ∀ e ∈ events, e.isCancel = false) :
    ((new c).run events).Booked := by
  induction events using List.reverseRecOn with
  | nil => exact ⟨⟨rfl, rfl⟩, .refl _⟩
  | append_singleton past e ih =>
    rw [run_append]
    apply Booked.step ((fresh_new c).run past) (mapped_run c past) (closesKnown_run c past)
    · exact ih fun e' he' => h e' (by simp [he'])
    · exact h e (by simp)

/-! ### How many connections are open -/

/-- Whether a task tries connections with a first ping. -/
def Stage.isPinging : Stage → Bool
  | .pinging _ _ _ _ _ => true
  | _ => false

lemma Mapped.length_collect (h : Mapped m.entries m.pools) :
    (m.entries.collect m.connectionsOf).length = m.entries.size := by
  have hsome : ∀ t id, m.entries.get? t = some id → (m.connectionsOf id).isSome = true := by
    intro t id ht
    obtain ⟨p, hp⟩ := h.exists_pool ht
    simp [connectionsOf, hp]
  rw [Assoc.length_collect hsome]
  simp [Assoc.countValues, Assoc.size]

lemma Settled.length_collect (h : m.Settled) :
    (m.tasks.collect (Stage.connections? m.connectionsOf)).length =
      m.tasks.countValues Stage.isPinging := by
  apply Assoc.length_collect
  intro k s hs
  have hc := h k s hs
  cases s <;> simp_all [Stage.connections?, Stage.isPinging, Stage.isClosing]

lemma countValues_isPinging_le (m : Manager) :
    m.tasks.countValues Stage.isPinging ≤ m.creations := by
  apply List.countP_mono_left
  intro e _ he
  cases hs : e.2 <;> simp_all [Stage.isPinging, Stage.hasSlot]

/-- When no task waits for connections to be closed, those are open that belong to a pool in use,
and those that a task pings. -/
lemma Booked.live_eq (hb : m.Booked) (hmap : Mapped m.entries m.pools) (hs : m.Settled) :
    m.ledger.live = m.entries.size + m.tasks.countValues Stage.isPinging := by
  rw [← hb.wellKept.length_openIds, ← hb.held.length_eq, Manager.held, holdings, List.length_append,
    hmap.length_collect, hs.length_collect]

lemma isCancel_of_isClosed {e : Event} (h : e.isClosed = true) : e.isCancel = false := by
  cases e <;> simp_all [Event.isClosed, Event.isCancel]

lemma creations_eq_zero (h : ∀ task s, m.tasks.get? task = some s → s.isCreating = false) :
    m.creations = 0 := by
  by_contra hne
  obtain ⟨task, s, hs, hslot⟩ := Assoc.countValues_pos_iff.1 (Nat.pos_of_ne_zero hne)
  have hcreating := Stage.isCreating_of_hasSlot hslot
  rw [h task s hs] at hcreating
  cases hcreating

/-- Over a backend in memory, however tasks take turns, as long as none is cancelled: no connections
are counted as closed twice; those that are open are held by one each, a pool in use or a task that
pings them, so that their number is that of both together; and there are not more of them than
slots. When no pool is being made, there are as many as pools in use and as slots. -/
theorem live_runInMemory (c : Config) (events : List Event)
    (h : ∀ e ∈ events, e.isCancel = false) :
    let m := (new c).runInMemory events
    m.ledger.opened = m.ledger.all.length ∧
    m.ledger.closed = m.ledger.all.countP Connections.closed ∧
    m.held.Perm m.ledger.openIds ∧
    (m.ledger.opened : Int) - m.ledger.closed =
      m.entries.size + m.tasks.countValues Stage.isPinging ∧
    (m.ledger.live : Int) ≤ m.slots ∧
    ((∀ task s, m.tasks.get? task = some s → s.isCreating = false) →
      m.ledger.live = m.entries.size ∧ m.slots = m.entries.size) := by
  intro m
  have hsettled : m.Settled := settled_runInMemory c events
  obtain ⟨events', hrun, hevents⟩ := exists_run_eq (new c) events
  have hcancel : ∀ e ∈ events', e.isCancel = false := by
    intro e he
    rcases hevents e he with he | he
    · exact h e he
    · exact isCancel_of_isClosed he
  have hm : m = (new c).run events' := hrun
  have hbooked : m.Booked := by
    rw [hm]
    exact booked_run c hcancel
  have hmap : Mapped m.entries m.pools := by
    rw [hm]
    exact mapped_run c events'
  have hslots : m.slots = m.entries.size + m.creations := by
    rw [hm]
    exact (accounted_run c hcancel).slots
  have hlive := hbooked.live_eq hmap hsettled
  have hpinging := m.countValues_isPinging_le
  have hle : m.ledger.closed ≤ m.ledger.opened := by
    rw [hbooked.wellKept.opened, hbooked.wellKept.closed]
    exact List.countP_le_length
  refine ⟨hbooked.wellKept.opened, hbooked.wellKept.closed, hbooked.held, ?_, ?_, ?_⟩
  · rw [Ledger.live] at hlive
    omega
  · omega
  · intro hnone
    have hzero := creations_eq_zero hnone
    omega

/-- A tenant beside the others. -/
def globex : Tenant :=
  { Tenant.new "globex" "Globex" "db.local" 5432 "globex_db" with id := "globex" }

/-- Another tenant beside the others. -/
def initech : Tenant :=
  { Tenant.new "initech" "Initech" "db.local" 5432 "initech_db" with id := "initech" }

/-- Two requests for the pool of one tenant, the second of which comes too late, and one for that of
another tenant, which gets as far as the first ping. -/
def lateSecondAndPing : List Event :=
  lateSecond ++ [.call (.get "globex"), .resume 2 (.tenant (.ok globex)),
    .resume 2 (.opened (.ok ("globex_db", 2)))]

/-- Of three that were opened, those that came too late are closed. -/
theorem live_lateSecondAndPing :
    (∀ e ∈ lateSecondAndPing, e.isCancel = false) ∧
      let m := (new (.new "app" "secret")).runInMemory lateSecondAndPing
      (m.ledger.opened : Int) - m.ledger.closed =
        m.entries.size + m.tasks.countValues Stage.isPinging ∧
      (m.ledger.live : Int) ≤ m.slots ∧ m.ledger.opened = 3 ∧ m.ledger.closed = 1 ∧
      m.slots = 2 := by
  have h : ∀ e ∈ lateSecondAndPing, e.isCancel = false := by decide
  have hm := live_runInMemory (.new "app" "secret") lateSecondAndPing h
  refine ⟨h, hm.2.2.2.1, hm.2.2.2.2.1, ?_, ?_, ?_⟩ <;> decide

end Tenancy.Manager
