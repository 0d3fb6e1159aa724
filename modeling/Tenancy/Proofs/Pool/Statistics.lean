import Mathlib.Algebra.GroupWithZero.Nat
import Mathlib.Algebra.Order.BigOperators.Group.List
import Mathlib.Data.List.Perm.Basic
import Mathlib.Data.String.Basic
import Tenancy.Pool.Statistics
import Tenancy.Proofs.Assoc

/-!
# Statistics in any order

The statistics of tenants, each with an identifier of its own, have their lines in ascending order
and the exact sums of their counts: `summarizes_ofTenants`. There is only one order like that, so
that the order in which tenants come does not matter, `ofTenants_eq_of_perm`. If the counts are
words of 32 bits and there are fewer lines than such words, the sums go up within words of 64 bits,
`below_of_prefix`.
-/

namespace Tenancy

/-- All of the counts are less than a bound. -/
structure ConnectionCount.Below (c : ConnectionCount) (bound : Nat) : Prop where
  total : c.total < bound
  idle : c.idle < bound
  acquired : c.acquired < bound

namespace Statistics

variable {tenants tenants' : List TenantStatistics} {s s' : Statistics}

/-! ### Sums -/

/-- The sums of all counts over tenants. -/
def sums (tenants : List TenantStatistics) : ConnectionCount :=
  ⟨sum ConnectionCount.total tenants, sum ConnectionCount.idle tenants,
    sum ConnectionCount.acquired tenants⟩

lemma sum_eq (f : ConnectionCount → Nat) (tenants : List TenantStatistics) :
    sum f tenants = (tenants.map fun t => f t.connections).sum := by
  rw [sum, List.sum, List.foldr_map]

lemma sum_perm (h : tenants.Perm tenants') (f : ConnectionCount → Nat) :
    sum f tenants = sum f tenants' := by
  rw [sum_eq, sum_eq]
  exact (h.map _).sum_eq

/-- A sum of fewer words of 32 bits than there are is a word of 64 bits. -/
lemma sum_lt {f : ConnectionCount → Nat} (hlength : tenants.length < 2 ^ 32)
    (hf : ∀ t ∈ tenants, f t.connections < 2 ^ 32) : sum f tenants < 2 ^ 64 := by
  have hle : sum f tenants ≤ tenants.length * (2 ^ 32 - 1) := by
    rw [sum_eq, ← List.length_map (f := fun t => f t.connections)]
    refine List.sum_le_card_nsmul _ _ fun n hn => ?_
    obtain ⟨t, ht, rfl⟩ := List.mem_map.1 hn
    exact Nat.le_sub_one_of_lt (hf t ht)
  calc sum f tenants ≤ tenants.length * (2 ^ 32 - 1) := hle
    _ ≤ 2 ^ 32 * (2 ^ 32 - 1) := Nat.mul_le_mul_right _ hlength.le
    _ < 2 ^ 64 := by decide

/-! ### Lines -/

/-- Statistics have the lines of all tenants in ascending order, their number, and the exact sums of
their counts. -/
structure Summarizes (s : Statistics) (tenants : List TenantStatistics) : Prop where
  perm : s.tenants.Perm tenants
  ascending : s.tenants.Pairwise (·.tenant < ·.tenant)
  pools : s.pools = tenants.length
  total : s.connections.total = (tenants.map (·.connections.total)).sum
  idle : s.connections.idle = (tenants.map (·.connections.idle)).sum
  acquired : s.connections.acquired = (tenants.map (·.connections.acquired)).sum

namespace Summarizes

lemma of_perm (h : s.Summarizes tenants) (hperm : tenants.Perm tenants') :
    s.Summarizes tenants' where
  perm := h.perm.trans hperm
  ascending := h.ascending
  pools := h.pools.trans hperm.length_eq
  total := h.total.trans (hperm.map _).sum_eq
  idle := h.idle.trans (hperm.map _).sum_eq
  acquired := h.acquired.trans (hperm.map _).sum_eq

/-- There is one order only in which identifiers ascend. -/
lemma unique (h : s.Summarizes tenants) (h' : s'.Summarizes tenants) : s = s' := by
  have htenants : s.tenants = s'.tenants :=
    List.Perm.eq_of_pairwise (fun a b _ _ hab hba => absurd hba hab.asymm)
      h.ascending h'.ascending (h.perm.trans h'.perm.symm)
  have hconnections : s.connections = s'.connections := by
    obtain ⟨_, ⟨_, _, _⟩, _⟩ := s
    obtain ⟨_, ⟨_, _, _⟩, _⟩ := s'
    rw [ConnectionCount.mk.injEq]
    exact ⟨h.total.trans h'.total.symm, h.idle.trans h'.idle.symm,
      h.acquired.trans h'.acquired.symm⟩
  obtain ⟨_, _, _⟩ := s
  obtain ⟨_, _, _⟩ := s'
  rw [Statistics.mk.injEq]
  exact ⟨h.pools.trans h'.pools.symm, hconnections, htenants⟩

lemma nodup (h : s.Summarizes tenants) : (s.tenants.map (·.tenant)).Nodup :=
  List.pairwise_map.2 (h.ascending.imp ne_of_lt)

/-- What is found under an identifier is the line of the tenant with it. -/
lemma tenant?_eq_some_iff (h : s.Summarizes tenants) {id : TenantId} {t : TenantStatistics} :
    s.tenant? id = some t ↔ t ∈ tenants ∧ t.tenant = id := by
  rw [tenant?, ← h.perm.mem_iff]
  constructor
  · intro hfind
    have hid := List.find?_some hfind
    exact ⟨List.mem_of_find?_eq_some hfind, of_decide_eq_true hid⟩
  · rintro ⟨hmem, rfl⟩
    exact find?_of_nodup h.nodup hmem

lemma unhealthy_eq (h : s.Summarizes tenants) :
    s.unhealthy = tenants.countP fun t => !t.healthy := h.perm.countP_eq _

end Summarizes

/-- The statistics of tenants are as they should be. -/
theorem summarizes_ofTenants (h : (tenants.map (·.tenant)).Nodup) :
    (ofTenants tenants).Summarizes tenants := by
  have hperm : (ofTenants tenants).tenants.Perm tenants := List.mergeSort_perm _ _
  have hsorted : (ofTenants tenants).tenants.Pairwise (·.tenant ≤ ·.tenant) :=
    pairwise_mergeSort_key TenantStatistics.tenant tenants
  have hdistinct : (ofTenants tenants).tenants.Pairwise fun a b => a.tenant ≠ b.tenant :=
    List.pairwise_map.1 ((hperm.map _).nodup_iff.2 h)
  have hascending := hsorted.and hdistinct
  have hsum (f : ConnectionCount → Nat) :
      sum f (ofTenants tenants).tenants = (tenants.map fun t => f t.connections).sum := by
    rw [sum_perm hperm, sum_eq]
  exact {
    perm := hperm
    ascending := hascending.imp fun hab => lt_of_le_of_ne hab.1 hab.2
    pools := hperm.length_eq
    total := hsum ConnectionCount.total
    idle := hsum ConnectionCount.idle
    acquired := hsum ConnectionCount.acquired }

/-- The order in which tenants come does not matter. -/
theorem ofTenants_eq_of_perm (h : (tenants.map (·.tenant)).Nodup)
    (hperm : tenants'.Perm tenants) : ofTenants tenants' = ofTenants tenants := by
  have h' : (tenants'.map (·.tenant)).Nodup := (hperm.map _).nodup_iff.2 h
  exact ((summarizes_ofTenants h').of_perm hperm).unique (summarizes_ofTenants h)

/-- However many lines were added up so far, the sums are words of 64 bits. -/
lemma below_of_prefix (hlength : tenants.length < 2 ^ 32)
    (hcounts : ∀ t ∈ tenants, t.connections.Below (2 ^ 32)) {seen : List TenantStatistics}
    (hseen : seen <+: (ofTenants tenants).tenants) : (sums seen).Below (2 ^ 64) := by
  have hperm : (ofTenants tenants).tenants.Perm tenants := List.mergeSort_perm _ _
  have hseen_length : seen.length < 2 ^ 32 :=
    (hseen.length_le.trans_eq hperm.length_eq).trans_lt hlength
  have hseen_counts : ∀ t ∈ seen, t.connections.Below (2 ^ 32) := fun t ht =>
    hcounts t (hperm.mem_iff.1 (hseen.subset ht))
  exact ⟨sum_lt hseen_length fun t ht => (hseen_counts t ht).total,
    sum_lt hseen_length fun t ht => (hseen_counts t ht).idle,
    sum_lt hseen_length fun t ht => (hseen_counts t ht).acquired⟩

end Statistics

end Tenancy
