import Tenancy.Proofs.Manager.Grants
import Tenancy.Proofs.Store.Index

/-!
# Whose record a pool has

A pool has the record that was looked up for its tenant. `named_runInMemory`: if all records come
from stores whose tenants were created in them, the pool that is entered for a tenant has a record
with the tenant's identifier.
-/

namespace Tenancy.Manager

variable {m m' : Manager} {task k : TaskId} {o : Origin} {e : Event} {s : Stage} {t : TenantId}

/-! ### Records from a store -/

/-- Whether an event, if it tells a task the record of the tenant that it looks up, tells the one
that a store has whose tenants were all created in it. -/
def Event.FromStore (m : Manager) : Event → Prop
  | .resume task (.tenant (.ok record)) =>
    ∀ d t, m.tasks.get? task = some (.lookingUp d t) →
      ∃ h : Store.History, h.Reachable (fun _ c => c.Sized) ∧ h.store.require t = .ok record
  | _ => True

/-- Whether all records come from such stores, over a backend in memory. -/
def FromStore (m : Manager) : List Event → Prop
  | [] => True
  | e :: events => e.FromStore m ∧ (m.step e).settle.FromStore events

/-- The tenant for whom a task makes a pool, and the record that it has looked up. -/
def Stage.record? : Stage → Option (TenantId × Tenant)
  | .opening _ t record _ | .pinging _ t record _ _ => some (t, record)
  | _ => none

/-- The records that were looked up have the identifiers of the tenants. -/
structure Named (m : Manager) : Prop where
  stages : ∀ {k s t record}, m.tasks.get? k = some s → s.record? = some (t, record) →
    record.id = t
  pools : ∀ {t id record}, m.entries.get? t = some id →
    (m.pools.map Pool.tenant)[id]? = some record → record.id = t

/-- A task that makes a pool has the record that it had before, or has just looked it up. -/
lemma Reaches.record_eq (h : Reaches o s) {record : Tenant}
    (hs : s.record? = some (t, record)) :
    (∃ s₀, o = .stage s₀ ∧ s₀.record? = some (t, record)) ∨ ∃ d, o = .stage (.lookingUp d t) := by
  cases h with
  | leads h =>
    cases h with
    | opening =>
      cases hs
      exact .inr ⟨_, rfl⟩
    | pinging => exact .inl ⟨_, rfl, hs⟩
    | rejecting => cases hs
    | plain _ hplain => cases s <;> simp_all [Stage.isPlain, Stage.record?]
  | reserve | yield | close => cases hs

/-- A task that looks a tenant up goes on with the record that it is told. -/
lemma record_of_lookingUp {d : Demand} (hk : m.tasks.get? k = some (.lookingUp d t)) {a : Answer}
    (hs : (m.step (.resume k a)).tasks.get? k = some s) {record : Tenant} {t' : TenantId}
    (hrecord : s.record? = some (t', record)) : a = .tenant (.ok record) := by
  simp only [step, resume, hk] at hs
  cases a with
  | tenant result =>
    cases result with
    | error cause =>
      rw [show (m.answer k (.lookingUp d t) (.tenant (.error cause))).tasks.get? k = none from
        get?_fail _ _ _ _] at hs
      cases hs
    | ok found =>
      simp only [answer, afterLookup] at hs
      split at hs
      · rw [get?_await] at hs
        cases hs
        cases hrecord
        rfl
      · rw [giveUp, get?_fail] at hs
        cases hs
  | _ =>
    simp only [answer, hk] at hs
    cases hs
    cases hrecord

namespace Named

lemma spared (hs : m.Spared m') (h : Named m) : Named m' := by
  constructor
  · intro k s t record hk hrecord
    rcases hs.tasks hk with hk | hq
    · exact h.stages hk hrecord
    · cases s <;> simp_all [Stage.isQueued, Stage.record?]
  · rw [hs.entries, hs.tenants]
    exact h.pools

/-- A pool that is entered has the record that was looked up for its tenant. -/
lemma pools_turn (h : Named m) (hmap : Mapped m.entries m.pools) (ht : Turn m e m')
    (ho : e.origin? m = some (task, o)) (hat : ∀ s, o = .stage s → m.tasks.get? task = some s)
    (hc : EntryChange m o m') {id : PoolId} {record : Tenant}
    (hentry : m'.entries.get? t = some id)
    (hrecord : (m'.pools.map Pool.tenant)[id]? = some record) : record.id = t := by
  have hold : m.entries.get? t = some id → record.id = t := by
    intro hentry
    have hlt : id < (m.pools.map Pool.tenant).length := by
      rw [List.length_map]
      exact hmap.lt_length hentry
    rcases ht.tenants with heq | ⟨_, _, _, _, _, _, _, heq⟩
    · exact h.pools hentry (heq ▸ hrecord)
    · rw [heq, List.getElem?_append_left hlt] at hrecord
      exact h.pools hentry hrecord
  cases hc with
  | kept he => exact hold ((he t).symm.trans hentry)
  | @entered d t' looked connections deadline hpinging _ he =>
    rw [he, Assoc.get?_insert] at hentry
    split at hentry
    next heq =>
      cases hentry
      subst heq
      rcases ht.tenants with heq | ⟨_, _, _, _, _, _, ho', heq⟩
      · rw [heq, List.getElem?_eq_none (by rw [List.length_map])] at hrecord
        cases hrecord
      · rw [ho, hpinging] at ho'
        cases ho'
        rw [heq, List.getElem?_append_right (by rw [List.length_map]), List.length_map,
          Nat.sub_self] at hrecord
        cases hrecord
        exact h.stages (hat _ hpinging) rfl
    next => exact hold hentry
  | closed _ _ _ he =>
    rw [he, Assoc.get?_erase] at hentry
    split at hentry
    · cases hentry
    · exact hold hentry

/-- Records that are told have to have the identifiers that are looked up. -/
theorem step (hf : m.Fresh) (hmap : Mapped m.entries m.pools) (h : Named m)
    (htold : ∀ k d t record, e = .resume k (.tenant (.ok record)) →
      m.tasks.get? k = some (.lookingUp d t) → record.id = t) : Named (m.step e) := by
  have ht := Turn.of_step hf e
  cases ho : e.origin? m with
  | none => exact h.spared (ht.spared ho)
  | some reached =>
    obtain ⟨k₀, o⟩ := reached
    obtain ⟨m₀, q, hlt, -, hm⟩ := Move.of_step hf ho
    have hat : ∀ s, o = .stage s → ∃ a, e = .resume k₀ a ∧ m.tasks.get? k₀ = some s := by
      rintro s rfl
      cases Event.Drives.of_origin? ho with
      | resume a hs => exact ⟨a, rfl, hs⟩
    constructor
    · intro k s t record hs hrecord
      rcases hm.get?_cases hs with hs' | hqueued | ⟨rfl, hreach⟩
      · exact (h.spared q.spared).stages hs' hrecord
      · cases s <;> simp_all [Stage.isQueued, Stage.record?]
      · rcases hreach.record_eq hrecord with ⟨s₀, heq, hrecord₀⟩ | ⟨d, heq⟩
        · obtain ⟨-, -, hs₀⟩ := hat s₀ heq
          exact h.stages hs₀ hrecord₀
        · obtain ⟨a, rfl, hk⟩ := hat _ heq
          have ha := record_of_lookingUp hk hs hrecord
          subst ha
          have hid := htold k d t record rfl hk
          exact hid
    · intro t id record hentry hrecord
      refine h.pools_turn hmap ht ho (fun s heq => ?_) (hm.entryChange.quiet q) hentry hrecord
      obtain ⟨-, -, hs⟩ := hat s heq
      exact hs

/-- A store has the record of a tenant under its identifier. -/
lemma step_of_fromStore (hf : m.Fresh) (hmap : Mapped m.entries m.pools) (h : Named m)
    (he : e.FromStore m) : Named (m.step e) := by
  refine h.step hf hmap fun k d t record heq hk => ?_
  subst heq
  obtain ⟨history, hreachable, hrequire⟩ := he d t hk
  exact Store.id_of_require hreachable hrequire

end Named

/-- In every run over a backend in memory, the records of the pools in use are those of the tenants
that have them. -/
theorem named_runInMemory (hf : m.Fresh) (hmap : Mapped m.entries m.pools) (h : Named m)
    {events : List Event} (hevents : m.FromStore events) : Named (m.runInMemory events) := by
  induction events generalizing m with
  | nil => exact h
  | cons e rest ih =>
    obtain ⟨he, hrest⟩ := hevents
    have hstep : (m.step e).Fresh ∧ Mapped (m.step e).entries (m.step e).pools ∧ Named (m.step e) :=
      ⟨hf.step e, hmap.turn (.of_step hf e), h.step_of_fromStore hf hmap he⟩
    have hsettle := settle_induction
      (I := fun m => m.Fresh ∧ Mapped m.entries m.pools ∧ Named m) ?_ hstep
    · exact ih hsettle.1 hsettle.2.1 hsettle.2.2 hrest
    · rintro m k s ⟨hf, hmap, h⟩ - -
      exact ⟨hf.step _, hmap.turn (.of_step hf _), h.step_of_fromStore hf hmap trivial⟩

end Tenancy.Manager
