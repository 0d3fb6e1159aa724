import Tenancy.Proofs.Manager.Connections
import Tenancy.Proofs.Pool.Statistics

/-!
# Statistics of a manager

The statistics of a manager have a `line` for each tenant with a pool in use. They say of a tenant
what there is to say of its pool, and nothing of others, so that they depend on which pool is in use
for whom, and not on the order in which pools came into use: `statistics_exact`.
-/

namespace Tenancy.Manager

variable {m m' : Manager} {t : TenantId} {l : TenantStatistics}

/-- The pool in use for a tenant. -/
def pool? (m : Manager) (t : TenantId) : Option Pool :=
  (m.entries.get? t).bind (m.pools[·]?)

/-- What the statistics say of a tenant with a pool. -/
def line (count : ConnectionsId → ConnectionCount) (now : Nat) (t : TenantId) (p : Pool) :
    TenantStatistics where
  tenant := t
  slug := p.tenant.slug
  connections := count p.connections
  refs := p.refs
  idleMillis := p.idleFor now / 1000000
  healthy := !p.isUnhealthy

/-- What the statistics say of all tenants with pools, in whatever order these came into use. -/
def lines (m : Manager) (count : ConnectionsId → ConnectionCount) : List TenantStatistics :=
  m.snapshot.filterMap fun e => (m.pools[e.2]?).map (line count m.now e.1)

variable (count : ConnectionsId → ConnectionCount)

lemma mem_lines : l ∈ m.lines count ↔ ∃ t p, m.pool? t = some p ∧ line count m.now t p = l := by
  simp only [lines, snapshot, List.mem_filterMap, Prod.exists, Option.map_eq_some_iff, pool?,
    Option.bind_eq_some_iff, Assoc.get?_eq_some_iff]
  constructor
  · rintro ⟨t, id, hmem, p, hp, rfl⟩
    exact ⟨t, p, ⟨id, hmem, hp⟩, rfl⟩
  · rintro ⟨t, p, ⟨id, hmem, hp⟩, rfl⟩
    exact ⟨t, id, hmem, p, hp, rfl⟩

/-- There is one line for each tenant. -/
lemma nodup_lines (m : Manager) : ((m.lines count).map (·.tenant)).Nodup := by
  refine Assoc.nodup_map_filterMap fun e _ l hl => ?_
  obtain ⟨p, -, rfl⟩ := Option.map_eq_some_iff.1 hl
  rfl

lemma summarizes_lines (m : Manager) : (m.statistics count).Summarizes (m.lines count) :=
  Statistics.summarizes_ofTenants (nodup_lines count m)

/-- Which pool is in use for whom says what the statistics are. -/
lemma statistics_congr (hnow : m'.now = m.now) (hpool : ∀ t, m'.pool? t = m.pool? t) :
    m'.statistics count = m.statistics count := by
  have hperm : (m'.lines count).Perm (m.lines count) := by
    have hnodup (m : Manager) : (m.lines count).Nodup := List.Nodup.of_map _ (nodup_lines count m)
    refine (List.perm_ext_iff_of_nodup (hnodup m') (hnodup m)).2 fun l => ?_
    simp only [mem_lines, hpool, hnow]
  exact Statistics.ofTenants_eq_of_perm (nodup_lines count m) hperm

/-- What is found of a tenant is the line of its pool. -/
lemma tenant?_statistics (m : Manager) (t : TenantId) :
    (m.statistics count).tenant? t = (m.pool? t).map (line count m.now t) := by
  apply Option.ext
  intro l
  rw [(summarizes_lines count m).tenant?_eq_some_iff, mem_lines, Option.map_eq_some_iff]
  constructor
  · rintro ⟨⟨_, p, hp, rfl⟩, rfl⟩
    exact ⟨p, hp, rfl⟩
  · rintro ⟨p, hp, rfl⟩
    exact ⟨⟨t, p, hp, rfl⟩, rfl⟩

lemma unhealthy_statistics (m : Manager) : (m.statistics count).unhealthy =
    m.entries.countValues fun id => (m.pools[id]?).elim false Pool.isUnhealthy := by
  rw [(summarizes_lines count m).unhealthy_eq, lines, List.countP_filterMap]
  refine List.countP_congr fun e _ => ?_
  cases hp : m.pools[e.2]? <;> simp [line, hp]

namespace Mapped

variable (h : Mapped m.entries m.pools)

include h

lemma isSome_pool? (t : TenantId) : (m.pool? t).isSome = m.entries.contains t := by
  rw [pool?, Assoc.contains]
  cases ht : m.entries.get? t with
  | none => rfl
  | some id =>
    obtain ⟨p, hp⟩ := h.exists_pool ht
    rw [Option.bind_some, hp]
    rfl

lemma pools_statistics : (m.statistics count).pools = m.entries.size := by
  rw [(summarizes_lines count m).pools, lines, List.length_filterMap_eq_countP, snapshot,
    List.countP_eq_length.2, Assoc.size]
  intro e he
  obtain ⟨p, hp⟩ := h.exists_pool (Assoc.get?_eq_some_iff.2 he)
  rw [hp]
  rfl

end Mapped

/-- The statistics of tenants that are told apart by their identifiers have the lines of these in
ascending order, their number, and the exact sums of their counts, in whatever order the tenants
come. The sums go up within words of 64 bits, if counts are words of 32 bits and there are fewer
tenants than such words. The statistics of a manager, in every state that it can get to, are those
of every manager at that time with the same pools in use for the same tenants. They have the lines
of the pools in use and no others: what they find of a tenant is the line of its pool, the pools are
as many as there are entries, and the unhealthy ones as many as are marked. -/
theorem statistics_exact :
    (∀ tenants : List TenantStatistics, (tenants.map (·.tenant)).Nodup →
      (Statistics.ofTenants tenants).Summarizes tenants ∧
      (∀ tenants', tenants'.Perm tenants →
        Statistics.ofTenants tenants' = Statistics.ofTenants tenants) ∧
      (tenants.length < 2 ^ 32 → (∀ t ∈ tenants, t.connections.Below (2 ^ 32)) →
        ∀ seen, seen <+: (Statistics.ofTenants tenants).tenants →
          (Statistics.sums seen).Below (2 ^ 64))) ∧
    ∀ (c : Config) (events : List Event) (count : ConnectionsId → ConnectionCount),
      let m := (new c).run events
      let s := m.statistics count
      (∀ m' : Manager, m'.now = m.now → (∀ t, m'.pool? t = m.pool? t) →
        m'.statistics count = s) ∧
      s.Summarizes (m.lines count) ∧
      (∀ t, s.tenant? t = (m.pool? t).map (line count m.now t)) ∧
      (∀ t, (m.pool? t).isSome = m.entries.contains t) ∧
      s.pools = m.entries.size ∧
      s.unhealthy =
        m.entries.countValues fun id => (m.pools[id]?).elim false Pool.isUnhealthy := by
  refine ⟨fun tenants hnodup => ⟨Statistics.summarizes_ofTenants hnodup,
    fun tenants' => Statistics.ofTenants_eq_of_perm hnodup,
    fun hlength hcounts seen => Statistics.below_of_prefix hlength hcounts⟩,
    fun c events count => ?_⟩
  intro m s
  have hmapped : Mapped m.entries m.pools := mapped_run c events
  exact ⟨fun m' => statistics_congr count, summarizes_lines count m, tenant?_statistics count m,
    hmapped.isSome_pool?, hmapped.pools_statistics count, unhealthy_statistics count m⟩

/-- A pool is leased for one tenant and used for another one, who comes first in the order of
identifiers, and the database of the first one fails a ping. -/
def firstFails : List Event :=
  [.call (.lease "globex"), .resume 0 (.tenant (.ok globex)),
    .resume 0 (.opened (.ok ("globex_db", 2))), .resume 0 (.pinged (.ok ())),
    .call (.get "acme")] ++ acmeOpens 1 ++
    [.call .checkHealth, .resume 3 .proceed,
      .resume 3 (.pinged (.error (.unreachable "globex_db"))), .resume 2 .proceed]

/-- If the pools had come into use the other way round, the statistics would be the same: two pools,
the one of the first tenant unhealthy, with five connections. -/
theorem statistics_exact_firstFails :
    let m := (new (.new "app" "secret")).run firstFails
    let count (id : ConnectionsId) : ConnectionCount := ⟨id + 2, 2, id⟩
    let s := m.statistics count
    let other := { m with entries := ⟨[("acme", 1), ("globex", 0)], by decide⟩ }
    m.entries.toList = [("globex", 0), ("acme", 1)] ∧ other.statistics count = s ∧
      ((m.lines count).map (·.tenant)).Nodup ∧ Statistics.ofTenants (m.lines count).reverse = s ∧
      (Statistics.sums s.tenants).Below (2 ^ 64) ∧ s.connections.total = 5 ∧ s.pools = 2 ∧
      s.unhealthy = 1 ∧ s.tenant? "globex" = some ⟨"globex", "globex", ⟨2, 2, 0⟩, 1, 0, false⟩ ∧
      s.tenant? "initech" = none := by
  intro m count s other
  have hentries : m.entries.toList = [("globex", 0), ("acme", 1)] := by decide
  have hother : ∀ t, other.pool? t = m.pool? t := by
    have hperm : other.entries.toList.Perm m.entries.toList := hentries ▸ .swap _ _ _
    intro t
    rw [pool?, pool?, Assoc.get?_eq_of_perm hperm]
  have hlines : m.lines count = [⟨"globex", "globex", ⟨2, 2, 0⟩, 1, 0, false⟩,
      ⟨"acme", "acme", ⟨3, 2, 1⟩, 0, 0, true⟩] := by decide
  have hnodup : ((m.lines count).map (·.tenant)).Nodup := by
    rw [hlines]
    decide
  obtain ⟨hlists, hmanagers⟩ := statistics_exact
  obtain ⟨-, hreverse, hfits⟩ := hlists (m.lines count) hnodup
  obtain ⟨hsame, hsums, hfound, -, hpools, hunhealthy⟩ :=
    hmanagers (.new "app" "secret") firstFails count
  have hcounts : ∀ t ∈ m.lines count, t.connections.Below (2 ^ 32) := by
    rw [hlines]
    simp only [List.mem_cons, List.not_mem_nil, or_false]
    rintro t (rfl | rfl) <;> exact ⟨by decide, by decide, by decide⟩
  exact ⟨hentries, hsame other rfl hother, hnodup, hreverse _ (List.reverse_perm _),
    hfits (hlines ▸ by decide) hcounts _ List.prefix_rfl, hsums.total.trans (hlines ▸ rfl),
    hpools.trans (by decide), hunhealthy.trans (by decide), (hfound "globex").trans (by decide),
    (hfound "initech").trans (by decide)⟩

end Tenancy.Manager
