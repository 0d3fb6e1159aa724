import Tenancy.Proofs.Store.Readable

/-!
# What is listed

A list that succeeds has the tenants of all rows. As each row is kept under the identifier that it
names, what is listed with a status is what is found with it by identifiers, each tenant once.
-/

namespace Tenancy

namespace Store

open History (Reachable)

variable {s : Store} {tenants : List Tenant}

/-- A list that succeeds has the tenants of the rows. -/
lemma perm_of_list (h : s.list = .ok tenants) :
    tenants.Perm (s.tenants.collect Tenant.ofText?) := by
  have hread : ∀ row ∈ s.rows, ∃ t, Tenant.ofText? row.2 = some t := by
    intro row hrow
    cases hdecode : decode row.2 with
    | ok t => exact ⟨t, decode_eq_ok_iff.1 hdecode⟩
    | error cause =>
      obtain ⟨row', hmap⟩ := exists_mapM_decode ⟨row, hrow, cause, hdecode⟩
      rw [list, hmap] at h
      cases h
  rw [list, mapM_decode hread] at h
  cases h
  exact (List.mergeSort_perm _ _).trans ((List.mergeSort_perm _ _).filterMap _)

/-- In every store whose tenants were all created in it, the tenants that are listed with a status
are those that are found with it by identifiers, and each is listed once. -/
theorem listed_of_reachable {h : History} (hr : Reachable (fun _ c => c.Sized) h) {status : Status}
    (hlist : h.store.listWithStatus status = .ok tenants) :
    (tenants.map (·.id)).Nodup ∧
      ∀ t, t ∈ tenants ↔ h.store.get t.id = .ok (some t) ∧ t.status = status := by
  cases hall : h.store.list with
  | error cause =>
    rw [listWithStatus, hall] at hlist
    cases hlist
  | ok all =>
    rw [listWithStatus, hall] at hlist
    cases hlist
    have hperm := perm_of_list hall
    have hnames {id row t} (hrow : h.store.tenants.get? id = some row)
        (hread : Tenant.ofText? row = some t) : t.id = id :=
      ((names_of_reachable hr hrow).of_decode (decode_eq_ok_iff.2 hread)).1
    have hnodup : (all.map (·.id)).Nodup := by
      rw [(hperm.map _).nodup_iff]
      exact Assoc.nodup_map_collect fun id row t => hnames
    refine ⟨(List.filter_sublist.map _).nodup hnodup, fun t => ?_⟩
    rw [List.mem_filter, hperm.mem_iff, Assoc.mem_collect, get_eq_ok_some_iff, decide_eq_true_iff]
    refine and_congr_left' ?_
    constructor
    · rintro ⟨id, row, hrow, hread⟩
      rw [hnames hrow hread]
      exact ⟨row, hrow, decode_eq_ok_iff.2 hread⟩
    · rintro ⟨row, hrow, hread⟩
      exact ⟨t.id, row, hrow, decode_eq_ok_iff.1 hread⟩

end Store

end Tenancy
