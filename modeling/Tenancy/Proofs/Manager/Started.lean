import Tenancy.Proofs.Manager.Kinship
import Tenancy.Proofs.Manager.Loops

/-!
# Tasks that others have started

A task that starts others leaves those alone that there are, and so does one that reads a report: of
the reports it takes the first that is for it.
-/

namespace Tenancy.Manager

variable {m : Manager} {k : TaskId}

/-! ### Reports -/

lemma filter_eq_cons_of_find? {α : Type} {p : α → Bool} {a : α} {as : List α}
    (h : as.find? p = some a) : as.filter p = a :: (as.eraseP p).filter p := by
  induction as with
  | nil => cases h
  | cons first rest ih =>
    cases hp : p first with
    | true =>
      rw [List.find?_cons_of_pos hp] at h
      cases h
      rw [List.filter_cons_of_pos hp, List.eraseP_cons_of_pos hp]
    | false =>
      rw [List.find?_cons_of_neg (by simp [hp])] at h
      rw [List.filter_cons_of_neg (by simp [hp]), List.eraseP_cons_of_neg (by simp [hp]),
        List.filter_cons_of_neg (by simp [hp])]
      exact ih h

lemma filter_not_eraseP {α : Type} (p : α → Bool) (as : List α) :
    (as.eraseP p).filter (fun a => !p a) = as.filter fun a => !p a := by
  induction as with
  | nil => rfl
  | cons first rest ih =>
    cases hp : p first with
    | true => simp [hp]
    | false => simp [hp, ih]

lemma filter_reports (h : m.expectsReports k = false) :
    m.reports.filter (·.1 ≠ k) = m.reports := by
  rw [List.filter_eq_self]
  rintro ⟨k', r⟩ hr
  refine decide_eq_true fun hk' => ?_
  cases hk'
  exact not_mem_reports h r hr

/-! ### Tasks that are started -/

/-- What tasks there are when several have started. -/
structure Spawned (m : Manager) (stages : List Stage) (m' : Manager) : Prop where
  manager : m' = { m with tasks := m'.tasks, nextTask := m'.nextTask }
  older : ∀ j < m.nextTask, m'.tasks.get? j = m.tasks.get? j
  newer : ∀ j stage, m.nextTask ≤ j → m'.tasks.get? j = some stage → stage ∈ stages
  collect : ∀ {γ : Type} (f : Stage → Option γ),
    m'.tasks.collect f = m.tasks.collect f ++ stages.filterMap f

lemma Fresh.spawned (hf : m.Fresh) (stages : List Stage) :
    Spawned m stages (m.spawnAll stages) := by
  induction stages generalizing m with
  | nil =>
    refine ⟨rfl, fun _ _ => rfl, fun j stage hle hj => ?_, fun f => (List.append_nil _).symm⟩
    exact absurd (hf j stage hj) (not_lt.2 hle)
  | cons stage rest ih =>
    have htasks : (m.spawn stage).tasks = m.tasks.insert m.nextTask stage := rfl
    have h : Spawned (m.spawn stage) rest (m.spawnAll (stage :: rest)) := ih (hf.spawn stage)
    refine ⟨h.manager, fun j hj => ?_, fun j stage' hle hj => ?_, fun f => ?_⟩
    · rw [h.older j (hj.trans (Nat.lt_succ_self _)), htasks, Assoc.get?_insert, if_neg hj.ne]
    · rcases hle.eq_or_lt with rfl | hlt
      · rw [h.older _ (Nat.lt_succ_self _), htasks, Assoc.get?_insert, if_pos rfl] at hj
        cases hj
        exact List.mem_cons_self
      · exact List.mem_cons_of_mem _ (h.newer j stage' hlt hj)
    · rw [h.collect, htasks, Assoc.collect_insert, Assoc.collect_erase_of_none hf.get?_nextTask,
        List.append_assoc]
      cases hstage : f stage <;> simp [hstage]

end Tenancy.Manager
