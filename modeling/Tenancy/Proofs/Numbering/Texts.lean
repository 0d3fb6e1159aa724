import Mathlib.Data.List.Nodup
import Tenancy.Proofs.Numbering.Accounted
import Tenancy.Proofs.Sequence.Number

/-!
# Texts of the numbers of a series

The numbers of one tenant under one prefix are a series. Its sequences may start over in different
ways, and each period has a counter of its own, so that the same number is issued many times. But
its text is not: `texts_nodup`.
-/

namespace Tenancy.Cluster

variable {c : Cluster} {k : CounterKey} {e : Event} {events : List Event} {tenant : TenantId}
  {label text : String}

/-! ### Texts that are issued -/

/-- The text that an event gets for a number of a tenant under a prefix. -/
def text? (c : Cluster) (tenant : TenantId) (label : String) : Event → Option String
  | .nextNumber service tenant' s date =>
    if tenant' = tenant ∧ s.label = label then
      (c.services.get? service).bind fun n => (n.nextNumber tenant' s date c.counters).1.toOption
    else none
  | _ => none

/-- The texts that several events get for numbers of a tenant under a prefix. -/
def texts (c : Cluster) (tenant : TenantId) (label : String) : List Event → List String
  | [] => []
  | e :: events => (c.text? tenant label e).toList ++ (c.step e).texts tenant label events

/-- A text is that of a number, which is one of those issued for a counter of the series. -/
structure Issues (tenant : TenantId) (label text : String) (s : Sequence) (date : Date)
    (k : CounterKey) (v : Nat) : Prop where
  label : s.label = label
  make : CounterKey.make tenant s date = .ok k
  text : text = s.format (s.reset.period? date) v

/-- The text says which counter its number is of, and which number it is. -/
lemma Issues.inj {s s' : Sequence} {date date' : Date} {k' : CounterKey} {v v' : Nat}
    (h : Issues tenant label text s date k v) (h' : Issues tenant label text s' date' k' v') :
    k = k' ∧ v = v' := by
  have hlabel := h.label.trans h'.label.symm
  obtain ⟨hperiod, hv⟩ := Sequence.format_inj hlabel (h.text.symm.trans h'.text)
  obtain ⟨-, -, rfl⟩ := CounterKey.make_eq_ok h.make
  obtain ⟨-, -, rfl⟩ := CounterKey.make_eq_ok h'.make
  exact ⟨by rw [hlabel, hperiod.period?_eq], hv⟩

lemma issues_of_text? (h : c.text? tenant label e = some text) :
    ∃ s date k v, Issues tenant label text s date k v ∧ v ∈ (c.share k e).issued := by
  cases e with
  | nextNumber service tenant' s date =>
    simp only [text?, Option.ite_none_right_eq_some, Option.bind_eq_some_iff] at h
    obtain ⟨⟨rfl, hlabel⟩, n, hn, h⟩ := h
    rw [n.nextNumber_eq] at h
    cases hkey : CounterKey.make tenant' s date with
    | error fault => simp [Numbering.nextValue, Numbering.withKey, hkey, Except.map,
        Except.toOption] at h
    | ok key =>
      cases hv : (n.nextValue tenant' s date c.counters).1 with
      | error fault => simp [hv, Except.map, Except.toOption] at h
      | ok v =>
        rw [hv] at h
        refine ⟨s, date, key, v, ⟨hlabel, hkey, (Option.some.inj h).symm⟩, ?_⟩
        simp [share, drawShare, hn, hkey, hv, Share.ofDraw]
  | _ => cases h

lemma issues_of_mem_texts (h : text ∈ c.texts tenant label events) :
    ∃ s date k v, Issues tenant label text s date k v ∧ v ∈ (c.shares k events).issued := by
  induction events generalizing c with
  | nil => cases h
  | cons e rest ih =>
    simp only [texts, List.mem_append, Option.mem_toList] at h
    rcases h with h | h
    · obtain ⟨s, date, k, v, hissues, hv⟩ := issues_of_text? h
      exact ⟨s, date, k, v, hissues, List.mem_append_left _ hv⟩
    · obtain ⟨s, date, k, v, hissues, hv⟩ := ih h
      exact ⟨s, date, k, v, hissues, List.mem_append_right _ hv⟩

/-! ### No text is issued twice -/

/-- Whatever the counter was at first, none of its numbers is issued twice. -/
lemma issued_nodup (hk : k.Formed) (store : Store) (hset : ∀ e ∈ events, e.sets k = false) :
    ((new store).shares k events).issued.Nodup := by
  have hheld : (new store).held k = [] := rfl
  have hperm := (balances_run hk (sound_new store _) hset).perm
  rw [hheld, List.nil_append] at hperm
  have hnodup := hperm.nodup_iff.2 List.nodup_range'
  simp only [List.append_assoc] at hnodup
  exact hnodup.of_append_left

lemma texts_nodup_of_issued
    (h : ∀ s date k, s.label = label → CounterKey.make tenant s date = .ok k →
      (c.shares k events).issued.Nodup) : (c.texts tenant label events).Nodup := by
  induction events generalizing c with
  | nil => exact List.nodup_nil
  | cons e rest ih =>
    have hrest : ((c.step e).texts tenant label rest).Nodup :=
      ih fun s date k hlabel hk => (h s date k hlabel hk).of_append_right
    rw [texts]
    cases htext : c.text? tenant label e with
    | none => exact hrest
    | some text =>
      refine List.nodup_cons.2 ⟨fun hmem => ?_, hrest⟩
      -- The number would be issued now and again later on.
      obtain ⟨s, date, k, v, hissues, hv⟩ := issues_of_text? htext
      obtain ⟨s', date', k', v', hissues', hv'⟩ := issues_of_mem_texts hmem
      obtain ⟨rfl, rfl⟩ := hissues.inj hissues'
      exact List.disjoint_of_nodup_append (h s date k hissues.label hissues.make) hv hv'

/-- However services take turns that share a store, however wide their numbers are and whichever of
their sequences start over when, as long as nobody gives a counter of the series a value: no text of
a number of a tenant under one prefix is issued twice. For under one prefix the text says whether
and how the sequence starts over, which period it is, and the value of the counter, however wide it
is written. -/
theorem texts_nodup (store : Store) (events : List Event) (tenant : TenantId) (label : String)
    (hset : ∀ e ∈ events, ∀ s date k, s.label = label → CounterKey.make tenant s date = .ok k →
      e.sets k = false) :
    ((new store).texts tenant label events).Nodup ∧
    ∀ (s s' : Sequence) (date date' : Date) (v v' : Nat), s.label = label → s'.label = label →
      s.format (s.reset.period? date) v = s'.format (s'.reset.period? date') v' →
      s.reset = s'.reset ∧ s.reset.period? date = s'.reset.period? date' ∧
        (s.reset ≠ .never → date.year = date'.year) ∧
        (s.reset = .monthly → date.month = date'.month) ∧ v = v' := by
  refine ⟨?_, ?_⟩
  · refine texts_nodup_of_issued fun s date k hlabel hk => ?_
    exact issued_nodup (.of_make hk) store fun e he => hset e he s date k hlabel hk
  · intro s s' date date' v v' hlabel hlabel' h
    obtain ⟨hperiod, hv⟩ := Sequence.format_inj (hlabel.trans hlabel'.symm) h
    exact ⟨hperiod.1, hperiod.period?_eq, hperiod.2.1, hperiod.2.2, hv⟩

/-- A day in the sixth year before the year zero, and one in the year 12024. -/
def earlyAndLate : Date × Date :=
  (⟨-6, 3, 1, by decide, by decide, by decide⟩, ⟨12024, 7, 1, by decide, by decide, by decide⟩)

/-- Two services number the same invoices, which start over in different ways, with different
widths, in different years. In between an increment fails, and a service forgets the tenant. -/
def manyPeriods : List Event :=
  [.start 0 .strict, .start 1 (.cached 2 Nat.two_pos),
    .nextNumber 1 "t1" ⟨"INV", .never, 1⟩ june2024,
    .nextNumber 0 "t1" ⟨"INV", .yearly, 1⟩ june2024,
    .nextNumber 1 "t1" ⟨"INV", .monthly, 1⟩ june2024,
    .nextNumber 0 "t1" ⟨"INV", .monthly, 4⟩ earlyAndLate.1,
    .plan .increment (.writing "disk full") 1,
    .nextNumber 0 "t1" ⟨"INV", .yearly, 2⟩ earlyAndLate.2,
    .nextNumber 0 "t1" ⟨"INV", .yearly, 2⟩ earlyAndLate.2,
    .forget 1 "t1",
    .nextNumber 1 "t1" ⟨"INV", .never, 6⟩ june2024]

/-- Each service issues the number one of several periods, and no two texts are the same. -/
theorem texts_nodup_manyPeriods :
    (∀ e ∈ manyPeriods, ∀ s date k, s.label = "INV" → CounterKey.make "t1" s date = .ok k →
      e.sets k = false) ∧
    (new .empty).texts "t1" "INV" manyPeriods =
      ["INV-1", "INV-2024-1", "INV-2024-06-1", "INV--006-03-0001", "INV-12024-01",
        "INV-000003"] ∧
    ["INV-1", "INV-2024-1", "INV-2024-06-1", "INV--006-03-0001", "INV-12024-01",
      "INV-000003"].Nodup := by
  have hset : ∀ e ∈ manyPeriods, ∀ s date k, s.label = "INV" →
      CounterKey.make "t1" s date = .ok k → e.sets k = false := by
    intro e he s date k _ _
    simp only [manyPeriods, List.mem_cons, List.not_mem_nil, or_false] at he
    rcases he with rfl | rfl | rfl | rfl | rfl | rfl | rfl | rfl | rfl | rfl | rfl <;> rfl
  have htexts : (new .empty).texts "t1" "INV" manyPeriods =
      ["INV-1", "INV-2024-1", "INV-2024-06-1", "INV--006-03-0001", "INV-12024-01",
        "INV-000003"] := by decide +kernel
  exact ⟨hset, htexts, htexts ▸ (texts_nodup .empty manyPeriods "t1" "INV" hset).1⟩

end Tenancy.Cluster
