import Tenancy.Proofs.Sequence.Key
import Tenancy.Proofs.Sequence.Number

/-!
# What the texts of counters say

The text of a counter joins a tenant, a prefix and a period, and a hyphen stands for no period;
prefixes and tenants may have hyphens as well, and a year before the year zero starts with one. The
text still says all that distinguishes counters, and it starts with the scope of a series or of a
tenant only if the counter is of that series or that tenant: `text_and_scopes_exact`.
-/

namespace Tenancy

variable {date date' : Date}

/-! ### Periods -/

namespace Reset

variable {r r' : Reset}

/-- Periods that are written alike are the same. -/
lemma period?_eq_iff : r.period? date = r'.period? date' ↔ SamePeriod r date r' date' := by
  refine ⟨fun h => ?_, SamePeriod.period?_eq⟩
  -- The numbers of two sequences that differ in nothing else are written alike then.
  let sequence (r : Reset) : Sequence := ⟨"", r, 0⟩
  have hlabel : (sequence r).label = (sequence r').label := rfl
  have hformat : (sequence r).format ((sequence r).reset.period? date) 0 =
      (sequence r').format ((sequence r').reset.period? date') 0 :=
    congrArg (Sequence.number "" · 0 0) h
  exact (Sequence.format_inj hlabel hformat).1

/-- Sequences are in the same period if they never start over, or start over each year and it is the
same year, or start over each month and it is the same month. -/
lemma samePeriod_iff : SamePeriod r date r' date' ↔
    (r = .never ∧ r' = .never) ∨
    (r = .yearly ∧ r' = .yearly ∧ date.year = date'.year) ∨
    (r = .monthly ∧ r' = .monthly ∧ date.year = date'.year ∧ date.month = date'.month) := by
  cases r <;> cases r' <;> simp [SamePeriod]

end Reset

/-! ### Counters -/

namespace CounterKey

variable {tenant tenant' : TenantId} {s s' : Sequence} {k k' : CounterKey}

lemma text_eq_iff (h : k.Formed) (h' : k'.Formed) : k.text = k'.text ↔ k = k' :=
  ⟨text_injective h' h, congrArg text⟩

/-- Whatever sequences they are made from, whenever and for whichever tenants: two counters have the
same text exactly if they are of the same tenant and prefix, and the sequences are in the same
period. The text of one starts with the scope of the series of the other exactly if tenant and
prefix are the same, and with the scope of a tenant exactly if that is the one it was made for. -/
theorem text_and_scopes_exact (h : make tenant s date = .ok k)
    (h' : make tenant' s' date' = .ok k') :
    (k.text = k'.text ↔ (tenant = tenant' ∧ s.label = s'.label) ∧
      ((s.reset = .never ∧ s'.reset = .never) ∨
        (s.reset = .yearly ∧ s'.reset = .yearly ∧ date.year = date'.year) ∨
        (s.reset = .monthly ∧ s'.reset = .monthly ∧ date.year = date'.year ∧
          date.month = date'.month))) ∧
    (k.seriesScope <+: k'.text.toList ↔ tenant = tenant' ∧ s.label = s'.label) ∧
    ∀ t : TenantId, '/' ∉ t.toList → (tenantScope t <+: k'.text.toList ↔ tenant' = t) := by
  have hk := Formed.of_make h
  have hk' := Formed.of_make h'
  obtain ⟨-, -, rfl⟩ := make_eq_ok h
  obtain ⟨-, -, rfl⟩ := make_eq_ok h'
  refine ⟨?_, seriesScope_isPrefix_iff hk' hk, fun t ht => ?_⟩
  · rw [text_eq_iff hk hk', mk.injEq, Reset.period?_eq_iff, Reset.samePeriod_iff, and_assoc]
  · exact (tenantScope_isPrefix_iff ht hk').trans eq_comm

/-- Two counters with hyphens in the tenant's identifier, in the prefix, and in front of the year,
which is before the year zero: one of the year, and one of a month of it. Their texts differ, but
are of one series, and of the tenant alone, although the identifier starts like another one. -/
theorem text_and_scopes_exact_hyphens :
    let march : Date := ⟨-6, 3, 1, by decide, by decide, by decide⟩
    let yearly : CounterKey := ⟨"t-1", "INV-2024", some "-006"⟩
    let monthly : CounterKey := ⟨"t-1", "INV-2024", some "-006-03"⟩
    make "t-1" ⟨"INV-2024", .yearly, 5⟩ march = .ok yearly ∧
      make "t-1" ⟨"INV-2024", .monthly, 5⟩ march = .ok monthly ∧
      yearly.text = "t-1/INV-2024/-006" ∧ monthly.text = "t-1/INV-2024/-006-03" ∧
      yearly.text ≠ monthly.text ∧ yearly.seriesScope <+: monthly.text.toList ∧
      tenantScope "t-1" <+: monthly.text.toList ∧ ¬ tenantScope "t-" <+: monthly.text.toList := by
  intro march yearly monthly
  have hyearly : make "t-1" ⟨"INV-2024", .yearly, 5⟩ march = .ok yearly := by decide +kernel
  have hmonthly : make "t-1" ⟨"INV-2024", .monthly, 5⟩ march = .ok monthly := by decide +kernel
  obtain ⟨htext, hseries, htenant⟩ := text_and_scopes_exact hyearly hmonthly
  refine ⟨hyearly, hmonthly, by decide +kernel, by decide +kernel, fun heq => ?_,
    hseries.2 ⟨rfl, rfl⟩, (htenant "t-1" (by decide)).2 rfl, fun hscope => ?_⟩
  · obtain ⟨-, hperiod⟩ := htext.1 heq
    revert hperiod
    decide
  · exact absurd ((htenant "t-" (by decide)).1 hscope) (by decide)

end CounterKey

end Tenancy
