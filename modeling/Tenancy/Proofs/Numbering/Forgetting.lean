import Tenancy.Proofs.Numbering.Shape
import Tenancy.Proofs.Text.Decimal

/-!
# Forgetting a tenant

A service that is told to forget a tenant gives up the ranges whose texts start with the identifier
and a slash. The identifier is not looked at, and need not be one: what all texts of a series have
in common, tenant, slash and prefix, makes the service give up the range of that series. So it
forgets the tenant alone exactly if there is no range of such a series: `forgets_iff`.
-/

namespace Tenancy

open Tenancy.Numbering (Call Reply Trial)
open Cluster (invoices june2024 june2025)

/-! ### What the text of a counter starts with -/

/-- What starts with a text without slash and with a slash behind it, and is followed by a slash. -/
lemma append_slash_prefix_cases {x a y : List Char} (ha : '/' ∉ a) :
    x ++ ['/'] <+: a ++ '/' :: y ↔ x = a ∨ ∃ x', x = a ++ '/' :: x' ∧ x' ++ ['/'] <+: y := by
  induction a generalizing x with
  | nil =>
    cases x with
    | nil => simp [List.cons_prefix_cons]
    | cons d x => simp [List.cons_prefix_cons]
  | cons c a ih =>
    have hc : ¬ '/' = c := fun hc => ha (hc ▸ List.mem_cons_self)
    cases x with
    | nil => simp [List.cons_prefix_cons, hc]
    | cons d x =>
      have ih := ih (x := x) fun h => ha (List.mem_cons_of_mem c h)
      simp only [List.cons_append, List.cons_prefix_cons, ih, List.cons.injEq]
      constructor
      · rintro ⟨rfl, rfl | ⟨x', rfl, hx'⟩⟩
        · exact .inl ⟨rfl, rfl⟩
        · exact .inr ⟨x', ⟨rfl, rfl⟩, hx'⟩
      · rintro (⟨rfl, rfl⟩ | ⟨x', ⟨rfl, rfl⟩, hx'⟩)
        · exact ⟨rfl, .inl rfl⟩
        · exact ⟨rfl, .inr ⟨x', rfl, hx'⟩⟩

lemma Reset.slash_notMem_period? {r : Reset} {date : Date} {p : String}
    (h : r.period? date = some p) : '/' ∉ p.toList := by
  have hyear : '/' ∉ Text.signedPadded 4 date.year := by
    cases date.year with
    | ofNat n => exact Text.not_mem_padded rfl 4 n
    | negSucc n => simp [Text.signedPadded, Text.not_mem_padded (d := '/') rfl]
  cases r with
  | never => cases h
  | yearly =>
    obtain rfl := Option.some.inj h
    rwa [String.toList_ofList]
  | monthly =>
    obtain rfl := Option.some.inj h
    simp [hyear, Text.not_mem_padded (d := '/') rfl]

namespace CounterKey

variable {k : CounterKey} {x : TenantId}

/-- Tenant and prefix, as they stand in the texts of all counters of a series. -/
def seriesName (k : CounterKey) : String := k.tenant ++ "/" ++ k.label

/-- A text starts with the scope of what a service is told to forget exactly if that is the tenant,
or the name of the series. -/
lemma IsMade.tenantScope_isPrefix_iff (h : k.IsMade) :
    tenantScope x <+: k.text.toList ↔ k.tenant = x ∨ k.seriesName = x := by
  have hperiod : '/' ∉ (k.period.getD "-").toList := by
    obtain ⟨tenant, s, date, hmake⟩ := h
    obtain ⟨-, -, rfl⟩ := make_eq_ok hmake
    cases hp : s.reset.period? date with
    | none => exact (by decide : '/' ∉ "-".toList)
    | some p => exact Reset.slash_notMem_period? hp
  have hshort : ∀ y, ¬ y ++ ['/'] <+: (k.period.getD "-").toList := fun y hy =>
    hperiod (hy.subset (List.mem_append_right y List.mem_cons_self))
  have hname : k.seriesName.toList = k.tenant.toList ++ '/' :: k.label.toList := by
    simp [seriesName]
  rw [toList_text, tenantScope, append_slash_prefix_cases h.formed.tenant]
  simp only [append_slash_prefix_cases h.formed.label, hshort, and_false, exists_false, or_false,
    exists_eq_right, ← hname, String.toList_inj, eq_comm]

/-- There are so many counters with a property. -/
def HasCount (p : CounterKey → Prop) (count : Nat) : Prop :=
  ∃ keys : List CounterKey, keys.Nodup ∧ (∀ k, k ∈ keys ↔ p k) ∧ keys.length = count

lemma HasCount.congr {p q : CounterKey → Prop} {count : Nat} (h : HasCount p count)
    (hpq : ∀ k, p k ↔ q k) : HasCount q count := by
  obtain ⟨keys, hnodup, hkeys, hlength⟩ := h
  exact ⟨keys, hnodup, fun k => (hkeys k).trans (hpq k), hlength⟩

lemma exists_keys {texts : List String} (h : ∀ text ∈ texts, ∃ k : CounterKey, k.IsMade ∧
    text = k.text) : ∃ keys : List CounterKey, (∀ k ∈ keys, k.IsMade) ∧ keys.map text = texts := by
  induction texts with
  | nil => exact ⟨[], by simp, rfl⟩
  | cons text texts ih =>
    obtain ⟨k, hk, rfl⟩ := h text List.mem_cons_self
    obtain ⟨keys, hkeys, rfl⟩ := ih fun text ht => h text (List.mem_cons_of_mem _ ht)
    exact ⟨k :: keys, List.forall_mem_cons.2 ⟨hk, hkeys⟩, rfl⟩

end CounterKey

/-! ### What is given up -/

lemma Store.counter_increment (s : Store) (text other : String) (amount : Nat) :
    (s.increment text amount).2.counter other =
      if other = text ∧ s.counter other + amount ≤ maxCounter then s.counter other + amount
      else s.counter other := by
  rw [increment_eq]
  split_ifs with hmax hother hother
  · obtain ⟨rfl, hle⟩ := hother
    exact absurd hmax (Nat.not_lt.2 hle)
  · rfl
  · rw [counter_withCounter, if_pos hother.1, hother.1]
  · rw [counter_withCounter]
    refine if_neg fun heq => hother ⟨heq, ?_⟩
    rw [heq]
    exact Nat.not_lt.1 hmax

namespace Numbering

/-- There are as many counters with a range whose text starts as given as there are such ranges. -/
lemma hasCount_of_made {n : Numbering} (hmade : ∀ {text range}, n.ranges.get? text = some range →
    ∃ k : CounterKey, k.IsMade ∧ text = k.text) (start : List Char) :
    CounterKey.HasCount (fun k => k.IsMade ∧ n.Keeps k ∧ start <+: k.text.toList)
      (n.ranges.size - (n.ranges.filter fun text _ => !start.isPrefixOf text.toList).size) := by
  let given := n.ranges.toList.filter fun e => start.isPrefixOf e.1.toList
  have hgiven : ∀ text, text ∈ given.map Prod.fst ↔
      (∃ range, n.ranges.get? text = some range) ∧ start <+: text.toList := by
    intro text
    simp only [given, List.mem_map, List.mem_filter, Prod.exists, Assoc.get?_eq_some_iff,
      List.isPrefixOf_iff_prefix, exists_and_right, exists_eq_right]
  obtain ⟨keys, hkeys, htexts⟩ := CounterKey.exists_keys fun text ht => by
    obtain ⟨⟨range, hget⟩, -⟩ := (hgiven text).1 ht
    exact hmade hget
  have hnodup : (keys.map CounterKey.text).Nodup :=
    htexts ▸ n.ranges.nodup.sublist (List.filter_sublist.map _)
  refine ⟨keys, hnodup.of_map, fun k => ⟨fun hk => ?_, fun hkept => ?_⟩, ?_⟩
  · obtain ⟨hkept, hstart⟩ := (hgiven k.text).1 (htexts ▸ List.mem_map_of_mem hk)
    exact ⟨hkeys k hk, hkept, hstart⟩
  · obtain ⟨hk, hkept, hstart⟩ := hkept
    have hmem : k.text ∈ keys.map CounterKey.text := htexts ▸ (hgiven k.text).2 ⟨hkept, hstart⟩
    obtain ⟨k', hk', heq⟩ := List.mem_map.1 hmem
    exact CounterKey.text_injective hk.formed (hkeys k' hk').formed heq ▸ hk'
  · have hlength : keys.length = given.length := by
      rw [← List.length_map (f := CounterKey.text), htexts, List.length_map]
    have hsize := List.length_eq_length_filter_add (l := n.ranges.toList)
      fun e => start.isPrefixOf e.1.toList
    rw [hlength, Assoc.size, Assoc.size, Assoc.filter, hsize, Nat.add_sub_cancel_right]

end Numbering

namespace Session

variable {m m' : Session Store} {x tenant : TenantId} {label : String} {k : CounterKey}

/-- Being told to forget `x`, a service gives up the ranges of the counters with a property and no
others, and tells how many there were. -/
structure GivesUp (m : Session Store) (x : TenantId) (p : CounterKey → Prop) : Prop where
  ranges : ∀ k : CounterKey, k.IsMade → ∀ range,
    (m.serve (.forget x)).2.service.ranges.get? k.text = some range ↔
      m.service.ranges.get? k.text = some range ∧ ¬ p k
  count : ∃ count, (m.serve (.forget x)).1 = .forgotten count ∧
    CounterKey.HasCount (fun k => k.IsMade ∧ m.service.Keeps k ∧ p k) count

/-- Being told to forget `x`, a service gives up the ranges of the tenant with this identifier and
no others, and whatever happens later, the calls for all other tenants get the replies that they
would have got otherwise. -/
structure Forgets (m : Session Store) (x : TenantId) : Prop where
  givesUp : m.GivesUp x fun k => k.tenant = x
  later : ∀ (later : List Happening) (tenant : TenantId) (label : String) (t : Trial),
    tenant ≠ x → t.call.isOn tenant label = true →
      (((m.serve (.forget x)).2.through later).attempt t).1 = ((m.through later).attempt t).1

variable (hmade : ∀ {text range}, m.service.ranges.get? text = some range →
  ∃ k : CounterKey, k.IsMade ∧ text = k.text)

include hmade in
lemma givesUp (x : TenantId) : m.GivesUp x fun k => k.tenant = x ∨ k.seriesName = x := by
  refine ⟨fun k hk range => ?_, _, rfl,
    (Numbering.hasCount_of_made hmade (CounterKey.tenantScope x)).congr fun k => ?_⟩
  · have hget := Assoc.get?_filter m.service.ranges
      (fun text _ => !(CounterKey.tenantScope x).isPrefixOf text.toList) k.text
    rw [← hk.tenantScope_isPrefix_iff, ← List.isPrefixOf_iff_prefix, Bool.not_eq_true]
    change ((m.service.ranges.filter _).get? k.text = some range) ↔ _
    rw [hget, Option.filter_eq_some_iff, Bool.not_eq_true']
  · exact and_congr_right fun hk => and_congr_right fun _ => hk.tenantScope_isPrefix_iff

/-! ### Later calls -/

/-- A request for a number, while the place is out of reach. -/
lemma allocate_fault (n : Numbering) (key : CounterKey) (counters : Store) (e : NumberingError) :
    n.allocate key (⟨counters, some e⟩ : Outage Store) =
      (n.taken? key).elim (.error e, n, ⟨counters, some e⟩) fun taken =>
        (.ok taken.1, { n with ranges := n.ranges.insert key.text taken.2 },
          ⟨counters, some e⟩) := by
  rw [Numbering.allocate_eq, Numbering.fromMemory?_eq]
  cases n.taken? key with
  | some taken => rfl
  | none =>
    have hsettle : n.settle key (.error e) = (.error e, n) := by
      unfold Numbering.settle
      cases n.strategy <;> rfl
    have hincrement : Counters.increment key n.strategy.amount (⟨counters, some e⟩ : Outage Store) =
        (.error e, ⟨counters, some e⟩) := rfl
    simp only [Option.map_none, hincrement, hsettle, Option.elim_none]

namespace Agrees

lemma symm (h : Agrees tenant label m m') : Agrees tenant label m' m :=
  ⟨h.strategy.symm, fun hk => (h.counter hk).symm, fun hk => (h.range hk).symm⟩

lemma attempt_nextValue_of_fault {s : Sequence} (h : Agrees tenant s.label m m') (date : Date)
    (e : NumberingError) :
    (m.attempt ⟨.nextValue tenant s date, some e⟩).1 =
        (m'.attempt ⟨.nextValue tenant s date, some e⟩).1 ∧
      Agrees tenant s.label (m.attempt ⟨.nextValue tenant s date, some e⟩).2
        (m'.attempt ⟨.nextValue tenant s date, some e⟩).2 := by
  simp only [Session.attempt, Session.serve, Numbering.nextValue, Numbering.withKey]
  cases hkey : CounterKey.make tenant s date with
  | error e => exact ⟨rfl, h⟩
  | ok key =>
    simp only [allocate_fault, ← h.taken? (.of_make hkey)]
    cases m.service.taken? key with
    | none => exact ⟨rfl, h⟩
    | some taken => exact ⟨rfl, h.insert key.text taken.2⟩

/-- A call on the series gets the same reply in both sessions, also while the store is out of
reach, and they go on agreeing. -/
lemma attempt (h : Agrees tenant label m m') {t : Trial} (hon : t.call.isOn tenant label = true) :
    (m.attempt t).1 = (m'.attempt t).1 ∧
      Agrees tenant label (m.attempt t).2 (m'.attempt t).2 := by
  obtain ⟨c, _ | e⟩ := t
  · rw [attempt_of_none, attempt_of_none]
    exact h.serve hon
  cases c with
  | forget x => cases hon
  | nextValue t s date =>
    obtain ⟨rfl, rfl⟩ := of_decide_eq_true hon
    exact h.attempt_nextValue_of_fault date e
  | nextNumber t s date =>
    obtain ⟨rfl, rfl⟩ := of_decide_eq_true hon
    obtain ⟨hreply, hagrees⟩ := h.attempt_nextValue_of_fault date e
    rw [attempt_nextNumber, attempt_nextNumber, hreply]
    exact ⟨rfl, hagrees⟩
  | peek t s date =>
    simp only [Session.attempt, Session.serve, Numbering.peek, Numbering.withKey]
    cases CounterKey.make t s date <;> exact ⟨rfl, h⟩
  | override t s date value =>
    simp only [Session.attempt, Session.serve, Numbering.override, Numbering.withKey]
    cases CounterKey.make t s date <;> exact ⟨rfl, h⟩

lemma attempt_nextValue_left (m : Session Store) {t : TenantId} {s : Sequence}
    (hne : ¬(t = tenant ∧ s.label = label)) (date : Date) (e : NumberingError) :
    Agrees tenant label (m.attempt ⟨.nextValue t s date, some e⟩).2 m := by
  simp only [Session.attempt, Session.serve, Numbering.nextValue, Numbering.withKey]
  cases hkey : CounterKey.make t s date with
  | error e => exact .refl m
  | ok key =>
    simp only [allocate_fault]
    cases m.service.taken? key with
    | none => exact .refl m
    | some taken => exact insert_left m (.of_make hkey hne) taken.2

/-- A call on another series leaves the series as it is. -/
lemma attempt_left (m : Session Store) {t : Trial} (hon : t.call.isOn tenant label = false)
    (hforget : ∀ x, t.call ≠ .forget x) : Agrees tenant label (m.attempt t).2 m := by
  obtain ⟨c, _ | e⟩ := t
  · rw [attempt_of_none]
    refine serve_left m ?_ fun x hx => absurd hx (hforget x)
    rw [Call.concerns, hon, Bool.false_or]
    exact decide_eq_false (hforget tenant)
  cases c with
  | forget x => exact absurd rfl (hforget x)
  | nextValue t s date => exact attempt_nextValue_left m (of_decide_eq_false hon) date e
  | nextNumber t s date =>
    rw [attempt_nextNumber]
    exact attempt_nextValue_left m (of_decide_eq_false hon) date e
  | peek t s date =>
    simp only [Session.attempt, Session.serve, Numbering.peek, Numbering.withKey]
    cases CounterKey.make t s date <;> exact .refl m
  | override t s date value =>
    simp only [Session.attempt, Session.serve, Numbering.override, Numbering.withKey]
    cases CounterKey.make t s date <;> exact .refl m

/-- Somebody else adds to a counter. -/
lemma increment (h : Agrees tenant label m m') (text : String) (amount : Nat) :
    Agrees tenant label (m.happen (.increment text amount))
      (m'.happen (.increment text amount)) := by
  refine ⟨h.strategy, fun {k} hk => ?_, h.range⟩
  simp only [happen, Store.counter_increment, h.counter hk]

lemma happen (h : Agrees tenant label m m') (e : Happening) :
    Agrees tenant label (m.happen e) (m'.happen e) := by
  cases e with
  | increment text amount => exact h.increment text amount
  | set text value => exact h.withCounter text value
  | call t =>
    cases hon : t.call.isOn tenant label with
    | true => exact (h.attempt hon).2
    | false =>
      by_cases hforget : ∃ x, t.call = .forget x
      · obtain ⟨c, fault⟩ := t
        obtain ⟨x, rfl⟩ := hforget
        exact h.forget x
      · have hother : ∀ x, t.call ≠ .forget x := fun x hx => hforget ⟨x, hx⟩
        exact (attempt_left m hon hother).trans (h.trans (attempt_left m' hon hother).symm)

lemma through (h : Agrees tenant label m m') (later : List Happening) :
    Agrees tenant label (m.through later) (m'.through later) := by
  induction later generalizing m m' with
  | nil => exact h
  | cons e later ih => exact ih (h.happen e)

end Agrees

/-! ### Forgetting one tenant -/

include hmade in
/-- If no range has `x` for the name of its series, only the series of the tenant `x` change. -/
lemma agrees_forget (hname : ∀ k : CounterKey, k.IsMade → m.service.Keeps k → k.seriesName ≠ x)
    (hne : tenant ≠ x) : Agrees tenant label (m.serve (.forget x)).2 m := by
  refine .of_ranges m fun {k} hk => ?_
  rw [Assoc.get?_filter]
  cases hget : m.service.ranges.get? k.text with
  | none => rfl
  | some range =>
    obtain ⟨k', hk', heq⟩ := hmade hget
    obtain rfl := CounterKey.text_injective hk'.formed hk.formed heq
    have hscope : ¬ CounterKey.tenantScope x <+: k.text.toList := by
      rw [hk'.tenantScope_isPrefix_iff, hk.tenant]
      exact not_or.2 ⟨hne, hname k hk' ⟨range, hget⟩⟩
    rw [Option.filter_some, Bool.eq_false_iff.2 (mt List.isPrefixOf_iff_prefix.1 hscope)]
    rfl

include hmade in
/-- What is no tenant's identifier is not the tenant of a counter that has it for its series. -/
lemma forgets_iff_of_made : m.Forgets x ↔
    ∀ k : CounterKey, k.IsMade → m.service.Keeps k → k.seriesName ≠ x := by
  constructor
  · rintro hforgets k hk ⟨range, hget⟩ hname
    have htenant : k.tenant = x := by
      by_contra hne
      have hkept := (hforgets.givesUp.ranges k hk range).2 ⟨hget, hne⟩
      exact (((givesUp hmade x).ranges k hk range).1 hkept).2 (.inr hname)
    refine hk.formed.tenant ?_
    rw [htenant, ← hname]
    simp [CounterKey.seriesName]
  · intro hname
    refine ⟨⟨fun k hk range => ?_, ?_⟩, fun later tenant label t hne hon => ?_⟩
    · rw [(givesUp hmade x).ranges k hk range]
      refine and_congr_right fun hget => not_congr (or_iff_left ?_)
      exact hname k hk ⟨range, hget⟩
    · obtain ⟨count, hreply, hcount⟩ := (givesUp hmade x).count
      refine ⟨count, hreply, hcount.congr fun k => ?_⟩
      exact and_congr_right fun hk => and_congr_right fun hkept => or_iff_left (hname k hk hkept)
    · exact (((agrees_forget hmade hname hne).through later).attempt hon).1

/-- In every state that a service with ranges of a size can get to, over a store that may be out of
reach and that others write to, all ranges are those of counters, and whatever it is told to forget,
it gives up the ranges of the tenant with this identifier and those of the series with this name,
and tells their number. So it forgets that tenant alone exactly if there is no range of such a
series. -/
theorem forgets_iff (size : Nat) (pos : 0 < size) (store : Store) (past : List Happening)
    (x : TenantId) :
    let m := (new (.cached size pos) store).through past
    (∀ text range, m.service.ranges.get? text = some range →
      ∃ k : CounterKey, k.IsMade ∧ text = k.text) ∧
    m.GivesUp x (fun k => k.tenant = x ∨ k.seriesName = x) ∧
    (m.Forgets x ↔ ∀ k : CounterKey, k.IsMade → m.service.Keeps k → k.seriesName ≠ x) := by
  intro m
  have hshaped := (shaped_through pos store past).2
  exact ⟨fun text range => hshaped.made, givesUp hshaped.made x, forgets_iff_of_made hshaped.made⟩

/-- Numbers are drawn in ranges for two tenants, the identifier of one being the start of that of
the other, and for two prefixes of one of them. -/
def threeSeries : List Happening :=
  [.call ⟨.nextValue "t1" invoices june2024, none⟩,
    .call ⟨.nextValue "t10" invoices june2024, none⟩,
    .call ⟨.nextNumber "t1" ⟨"INV2", .never, 5⟩ june2024, none⟩]

/-- The tenant is forgotten alone, with both series, but not if it is given with the prefix of one
of them. -/
theorem forgets_iff_threeSeries :
    let m := (new (.cached 3 (by decide)) Store.empty).through threeSeries
    m.Forgets "t1" ∧ (m.serve (.forget "t1")).1 = .forgotten 2 ∧
      ¬ m.Forgets "t1/INV" ∧ (m.serve (.forget "t1/INV")).1 = .forgotten 1 := by
  intro m
  obtain ⟨-, -, htenant⟩ := forgets_iff 3 (by decide) Store.empty threeSeries "t1"
  obtain ⟨-, -, hseries⟩ := forgets_iff 3 (by decide) Store.empty threeSeries "t1/INV"
  refine ⟨htenant.2 fun k _ _ hname => ?_, by decide +kernel, fun hforgets => ?_,
    by decide +kernel⟩
  · have hslash : '/' ∈ k.seriesName.toList := by simp [CounterKey.seriesName]
    rw [hname] at hslash
    exact absurd hslash (by decide)
  · let key : CounterKey := ⟨"t1", "INV", some "2024"⟩
    have hmade : key.IsMade := ⟨"t1", invoices, june2024, by decide +kernel⟩
    exact hseries.1 hforgets key hmade ⟨⟨2, 2⟩, by decide +kernel⟩ (by decide)

/-- A tenant and a prefix are taken for a tenant: there is none with this identifier, but a range is
given up, so that the next number for the tenant itself is another one. -/
theorem not_forgets_seriesName :
    let receipts : Sequence := ⟨"INV", .never, 5⟩
    let m := (new (.cached 3 (by decide)) Store.empty).through
      [.call ⟨.nextValue "a" receipts june2024, none⟩]
    ¬ m.Forgets "a/INV" ∧ (∀ k : CounterKey, k.IsMade → k.tenant ≠ "a/INV") ∧
      (m.serve (.forget "a/INV")).1 = .forgotten 1 ∧
      ((m.serve (.forget "a/INV")).2.serve (.nextValue "a" receipts june2024)).1 = .value (.ok 4) ∧
      (m.serve (.nextValue "a" receipts june2024)).1 = .value (.ok 2) := by
  intro receipts m
  refine ⟨fun hforgets => ?_, fun k hk htenant => ?_, by decide +kernel, by decide +kernel,
    by decide +kernel⟩
  · have hsame := hforgets.later [] "a" "INV" ⟨.nextValue "a" receipts june2024, none⟩
      (by decide) (by decide)
    revert hsame
    decide +kernel
  · have hslash := hk.formed.tenant
    rw [htenant] at hslash
    exact absurd hslash (by decide)

end Session

end Tenancy
