import Mathlib.Tactic.Common
import Tenancy.Sequence.Basic

/-!
# Texts of counters

A counter is kept under a text that joins tenant, prefix and period by slashes. As neither tenant
nor prefix has a slash, the text says which counter it is (`text_injective`), and what it starts
with tells whose it is and of which series (`tenantScope_isPrefix_iff`, `seriesScope_isPrefix_iff`).
-/

namespace Tenancy

/-! ### Texts with slashes -/

/-- What stands before the first slash, and what after it, can be compared apart. -/
lemma append_slash_prefix_iff {a b x y : List Char} (ha : '/' ∉ a) (hb : '/' ∉ b) :
    a ++ '/' :: x <+: b ++ '/' :: y ↔ a = b ∧ x <+: y := by
  induction a generalizing b with
  | nil =>
    cases b with
    | nil => simp [List.cons_prefix_cons]
    | cons c b =>
      have hc : ¬ '/' = c := fun hc => hb (hc ▸ List.mem_cons_self)
      simp [List.cons_prefix_cons, hc]
  | cons c a ih =>
    cases b with
    | nil =>
      have hc : ¬ c = '/' := fun hc => ha (hc ▸ List.mem_cons_self)
      simp [List.cons_prefix_cons, hc]
    | cons c' b =>
      have ih := ih (b := b) (fun h => ha (List.mem_cons_of_mem c h))
        fun h => hb (List.mem_cons_of_mem c' h)
      simp [List.cons_prefix_cons, ih, and_assoc]

/-! ### Periods -/

lemma Text.le_length_padded (width n : Nat) : width ≤ (padded width n).length := by
  simp only [padded, List.length_append, List.length_replicate]
  omega

lemma Text.le_length_signedPadded (width : Nat) (n : Int) :
    width ≤ (signedPadded width n).length := by
  cases n with
  | ofNat n => exact le_length_padded width n
  | negSucc n =>
    have := le_length_padded (width - 1) (n + 1)
    simp only [signedPadded, List.length_cons]
    omega

/-- The text of a period is longer than the hyphen that stands for none. -/
lemma Reset.period?_ne_hyphen {r : Reset} {date : Date} {p : String}
    (h : r.period? date = some p) : p ≠ "-" := by
  have hyear := Text.le_length_signedPadded 4 date.year
  rintro rfl
  cases r with
  | never => cases h
  | yearly =>
    have := congrArg String.length (Option.some.inj h)
    simp only [String.length_ofList] at this
    have hone : "-".length = 1 := rfl
    omega
  | monthly =>
    have := congrArg String.length (Option.some.inj h)
    simp only [String.length_ofList, List.length_append] at this
    have hone : "-".length = 1 := rfl
    omega

namespace CounterKey

/-! ### Well-formed counters -/

/-- What every counter has that was made from a sequence, a tenant and a date. -/
structure Formed (k : CounterKey) : Prop where
  tenant : '/' ∉ k.tenant.toList
  label : '/' ∉ k.label.toList
  period : ∀ p, k.period = some p → p ≠ "-"

lemma make_eq_ok {tenant : TenantId} {s : Sequence} {date : Date} {k : CounterKey}
    (h : make tenant s date = .ok k) :
    '/' ∉ tenant.toList ∧ '/' ∉ s.label.toList ∧ k = ⟨tenant, s.label, s.reset.period? date⟩ := by
  simp only [make, Sequence.validate, bind, Except.bind] at h
  split at h
  · cases h
  next hlabel =>
    split_ifs at hlabel with hempty hslash
    split_ifs at h with htenant
    cases h
    simp only [List.contains_eq_mem, decide_eq_true_eq, not_or] at hslash htenant
    exact ⟨htenant.2, hslash, rfl⟩

lemma Formed.of_make {tenant : TenantId} {s : Sequence} {date : Date} {k : CounterKey}
    (h : make tenant s date = .ok k) : k.Formed := by
  obtain ⟨htenant, hlabel, rfl⟩ := make_eq_ok h
  exact ⟨htenant, hlabel, fun _ hp => Reset.period?_ne_hyphen hp⟩

/-! ### Texts -/

variable {k k' : CounterKey}

lemma toList_text (k : CounterKey) : k.text.toList =
    k.tenant.toList ++ '/' :: (k.label.toList ++ '/' :: (k.period.getD "-").toList) := by
  simp [text, seriesScope, tenantScope]

/-- A counter starts with the scope of a tenant exactly if it is the tenant's. -/
theorem tenantScope_isPrefix_iff {tenant : TenantId} (ht : '/' ∉ tenant.toList) (h : k.Formed) :
    tenantScope tenant <+: k.text.toList ↔ tenant = k.tenant := by
  rw [toList_text, tenantScope, append_slash_prefix_iff ht h.tenant, String.toList_inj]
  simp

/-- A counter starts with the scope of another one's series exactly if it is of that series. -/
theorem seriesScope_isPrefix_iff (h : k.Formed) (h' : k'.Formed) :
    k'.seriesScope <+: k.text.toList ↔ k'.tenant = k.tenant ∧ k'.label = k.label := by
  have hscope : k'.seriesScope = k'.tenant.toList ++ '/' :: (k'.label.toList ++ ['/']) := by
    simp [seriesScope, tenantScope]
  rw [toList_text, hscope, append_slash_prefix_iff h'.tenant h.tenant,
    append_slash_prefix_iff h'.label h.label, String.toList_inj, String.toList_inj]
  simp

/-- The text says which counter it is. -/
theorem text_injective (h : k.Formed) (h' : k'.Formed) (heq : k'.text = k.text) : k' = k := by
  have hto : k'.text.toList <+: k.text.toList := by simp only [heq, List.prefix_rfl]
  have hfrom : k.text.toList <+: k'.text.toList := by simp only [heq, List.prefix_rfl]
  simp only [toList_text, append_slash_prefix_iff h.tenant h'.tenant,
    append_slash_prefix_iff h'.tenant h.tenant, append_slash_prefix_iff h.label h'.label,
    append_slash_prefix_iff h'.label h.label, String.toList_inj] at hto hfrom
  obtain ⟨htenant, hlabel, hto⟩ := hto
  have hperiod := String.toList_inj.1 (hto.eq_of_length_le hfrom.2.2.length_le)
  obtain ⟨tenant, label, period⟩ := k
  obtain ⟨tenant', label', period'⟩ := k'
  cases htenant
  cases hlabel
  cases period with
  | none =>
    cases period' with
    | none => rfl
    | some p' => exact absurd hperiod (h'.period p' rfl)
  | some p =>
    cases period' with
    | none => exact absurd hperiod.symm (h.period p rfl)
    | some p' => exact congrArg _ (congrArg some hperiod)

end CounterKey

end Tenancy
