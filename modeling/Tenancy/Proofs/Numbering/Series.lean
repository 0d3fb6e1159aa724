import Tenancy.Proofs.Numbering.Accounted
import Tenancy.Proofs.Numbering.Requests
import Tenancy.Proofs.Numbering.Session

/-!
# Series do not interfere

All tenants share one table of counters and one memory, and both go by texts in which one tenant or
prefix may be the start of another. Two sessions agree on a series if they have the same counters
and the same numbers in memory for it: calls on the series get the same replies in both, and all
other calls leave the series as it is. `replies_of_series`: the replies on a series depend on
nothing but the calls on it and on what makes the service forget the tenant.
-/

namespace Tenancy

open Tenancy.Numbering (Call Reply)
open Cluster (june2024 june2025)

/-- Whether a call is on the series of a tenant and a prefix. -/
def Numbering.Call.isOn (tenant : TenantId) (label : String) : Call → Bool
  | .nextValue t s _ | .nextNumber t s _ | .peek t s _ | .override t s _ _ =>
    t = tenant ∧ s.label = label
  | .forget _ => false

/-- Whether a call is on the series, or makes the service forget the tenant. -/
def Numbering.Call.concerns (tenant : TenantId) (label : String) (c : Call) : Bool :=
  c.isOn tenant label || c = .forget tenant

/-! ### Counters of a series -/

namespace CounterKey

variable {k key : CounterKey} {tenant : TenantId} {label : String} {s : Sequence} {date : Date}

/-- A counter of the series of a tenant and a prefix. -/
structure OfSeries (k : CounterKey) (tenant : TenantId) (label : String) : Prop where
  formed : k.Formed
  tenant : k.tenant = tenant
  label : k.label = label

/-- A counter of another series. -/
structure Beside (k : CounterKey) (tenant : TenantId) (label : String) : Prop where
  formed : k.Formed
  ne : ¬(k.tenant = tenant ∧ k.label = label)

lemma OfSeries.of_make (h : make tenant s date = .ok k) : k.OfSeries tenant s.label := by
  obtain ⟨-, -, rfl⟩ := make_eq_ok h
  exact ⟨.of_make h, rfl, rfl⟩

lemma Beside.of_make {t : TenantId} (h : make t s date = .ok k)
    (hne : ¬(t = tenant ∧ s.label = label)) : k.Beside tenant label := by
  obtain ⟨-, -, rfl⟩ := make_eq_ok h
  exact ⟨.of_make h, hne⟩

lemma Beside.text_ne (h : key.Beside tenant label) (hk : k.OfSeries tenant label) :
    k.text ≠ key.text := by
  intro heq
  obtain rfl := text_injective h.formed hk.formed heq
  exact h.ne ⟨hk.tenant, hk.label⟩

lemma Beside.scope (h : key.Beside tenant label) (hk : k.OfSeries tenant label) :
    key.seriesScope.isPrefixOf k.text.toList = false := by
  rw [Bool.eq_false_iff, Ne, List.isPrefixOf_iff_prefix,
    seriesScope_isPrefix_iff hk.formed h.formed, hk.tenant, hk.label]
  exact h.ne

end CounterKey

namespace Session

variable {m m' m'' : Session Store} {tenant : TenantId} {label : String} {key : CounterKey}

/-! ### Sessions that agree on a series -/

/-- Two sessions have the same counters and the same ranges in memory for a series. -/
structure Agrees (tenant : TenantId) (label : String) (m m' : Session Store) : Prop where
  strategy : m.service.strategy = m'.service.strategy
  counter : ∀ {k : CounterKey}, k.OfSeries tenant label →
    m.counters.counter k.text = m'.counters.counter k.text
  range : ∀ {k : CounterKey}, k.OfSeries tenant label →
    m.service.ranges.get? k.text = m'.service.ranges.get? k.text

namespace Agrees

lemma refl (m : Session Store) : Agrees tenant label m m :=
  ⟨rfl, fun _ => rfl, fun _ => rfl⟩

lemma trans (h : Agrees tenant label m m') (h' : Agrees tenant label m' m'') :
    Agrees tenant label m m'' :=
  ⟨h.strategy.trans h'.strategy, fun hk => (h.counter hk).trans (h'.counter hk),
    fun hk => (h.range hk).trans (h'.range hk)⟩

/-! ### The same change on both sides -/

lemma withCounter (h : Agrees tenant label m m') (text : String) (value : Nat) :
    Agrees tenant label { m with counters := m.counters.withCounter text value }
      { m' with counters := m'.counters.withCounter text value } :=
  ⟨h.strategy, fun hk => by simp only [Store.counter_withCounter, h.counter hk], h.range⟩

/-- What becomes of the range of each text depends on that range alone. -/
lemma ranges (h : Agrees tenant label m m') {a b : Assoc String Range}
    (hab : ∀ text, m.service.ranges.get? text = m'.service.ranges.get? text →
      a.get? text = b.get? text) :
    Agrees tenant label { m with service := { m.service with ranges := a } }
      { m' with service := { m'.service with ranges := b } } :=
  ⟨h.strategy, h.counter, fun hk => hab _ (h.range hk)⟩

lemma insert (h : Agrees tenant label m m') (text : String) (range : Range) :
    Agrees tenant label
      { m with service := { m.service with ranges := m.service.ranges.insert text range } }
      { m' with service := { m'.service with ranges := m'.service.ranges.insert text range } } :=
  h.ranges fun other heq => by simp only [Assoc.get?_insert, heq]

lemma filter (h : Agrees tenant label m m') (p : String → Range → Bool) :
    Agrees tenant label
      { m with service := { m.service with ranges := m.service.ranges.filter p } }
      { m' with service := { m'.service with ranges := m'.service.ranges.filter p } } :=
  h.ranges fun other heq => by simp only [Assoc.get?_filter, heq]

lemma keep (h : Agrees tenant label m m') (key : CounterKey) (range : Range) :
    Agrees tenant label { m with service := m.service.keep key range }
      { m' with service := m'.service.keep key range } :=
  (h.filter _).insert key.text range

end Agrees

end Session

/-! ### Requests -/

namespace Numbering

/-- The number that memory gives, with the range that is left of it. -/
def taken? (n : Numbering) (key : CounterKey) : Option (Nat × Range) :=
  match n.strategy with
  | .strict => none
  | .cached _ _ => (n.ranges.get? key.text).bind Range.take?

lemma fromMemory?_eq (n : Numbering) (key : CounterKey) :
    n.fromMemory? key = (n.taken? key).map fun taken =>
      (taken.1, { n with ranges := n.ranges.insert key.text taken.2 }) := by
  unfold fromMemory? taken? draw?
  cases n.strategy with
  | strict => rfl
  | cached size pos =>
    cases n.ranges.get? key.text with
    | none => rfl
    | some range =>
      simp only [Option.bind_eq_bind, Option.bind_some]
      cases range.take? <;> rfl

lemma increment_store (key : CounterKey) (amount : Nat) (store : Store) :
    Counters.increment key amount store =
      if Store.maxCounter < store.counter key.text + amount then
        (.error (.store (.overflow ("sequence " ++ key.text))), store)
      else (.ok (store.counter key.text + amount),
        store.withCounter key.text (store.counter key.text + amount)) := by
  simp only [Counters.increment, Counters.ofStore, Store.increment_eq]
  split_ifs <;> rfl

end Numbering

namespace Session

variable {m m' : Session Store} {tenant : TenantId} {label : String} {key : CounterKey}

/-- What a request for a number of a counter leaves behind. -/
def allocated (m : Session Store) (key : CounterKey) : Session Store :=
  ⟨(m.service.allocate key m.counters).2.1, (m.service.allocate key m.counters).2.2⟩

namespace Agrees

lemma taken? (h : Agrees tenant label m m') (hkey : key.OfSeries tenant label) :
    m.service.taken? key = m'.service.taken? key := by
  rw [Numbering.taken?, Numbering.taken?, h.strategy, h.range hkey]

/-- Both services make the same of an answer of the counter. -/
lemma settle (h : Agrees tenant label m m') (key : CounterKey)
    (answer : Except NumberingError Nat) :
    (m.service.settle key answer).1 = (m'.service.settle key answer).1 ∧
      Agrees tenant label { m with service := (m.service.settle key answer).2 }
        { m' with service := (m'.service.settle key answer).2 } := by
  unfold Numbering.settle
  rw [← h.strategy]
  cases m.service.strategy with
  | strict => exact ⟨rfl, h⟩
  | cached size pos =>
    cases answer with
    | error e => exact ⟨rfl, h⟩
    | ok ceiling =>
      simp only
      cases (Range.endingAt ceiling size).take? with
      | none => exact ⟨rfl, h⟩
      | some taken => exact ⟨rfl, h.keep key taken.2⟩

lemma allocate (h : Agrees tenant label m m') (hkey : key.OfSeries tenant label) :
    (m.service.allocate key m.counters).1 = (m'.service.allocate key m'.counters).1 ∧
      Agrees tenant label (m.allocated key) (m'.allocated key) := by
  simp only [allocated, Numbering.allocate_eq, Numbering.fromMemory?_eq, ← h.taken? hkey]
  cases m.service.taken? key with
  | some taken => exact ⟨rfl, h.insert key.text taken.2⟩
  | none =>
    simp only [Option.map_none, Numbering.increment_store, ← h.strategy, ← h.counter hkey]
    split_ifs with hmax
    · exact h.settle key _
    · exact (h.withCounter key.text _).settle key _

/-! ### Calls on the series -/

/-- A call on the series gets the same reply in both sessions, and they go on agreeing. -/
lemma serve (h : Agrees tenant label m m') {c : Call} (hc : c.isOn tenant label = true) :
    (m.serve c).1 = (m'.serve c).1 ∧ Agrees tenant label (m.serve c).2 (m'.serve c).2 := by
  cases c with
  | forget x => cases hc
  | nextValue t s date =>
    obtain ⟨rfl, rfl⟩ := of_decide_eq_true hc
    simp only [Session.serve, Numbering.nextValue, Numbering.withKey]
    cases hkey : CounterKey.make t s date with
    | error e => exact ⟨rfl, h⟩
    | ok key =>
      obtain ⟨hreply, hagrees⟩ := h.allocate (.of_make hkey)
      simp only [hreply]
      exact ⟨trivial, hagrees⟩
  | nextNumber t s date =>
    obtain ⟨rfl, rfl⟩ := of_decide_eq_true hc
    simp only [Session.serve, Numbering.nextNumber, Numbering.withKey]
    cases hkey : CounterKey.make t s date with
    | error e => exact ⟨rfl, h⟩
    | ok key =>
      obtain ⟨hreply, hagrees⟩ := h.allocate (.of_make hkey)
      simp only [hreply]
      exact ⟨trivial, hagrees⟩
  | peek t s date =>
    obtain ⟨rfl, rfl⟩ := of_decide_eq_true hc
    simp only [Session.serve, Numbering.peek, Numbering.withKey]
    cases hkey : CounterKey.make t s date with
    | error e => exact ⟨rfl, h⟩
    | ok key =>
      simp only [Counters.current, h.counter (.of_make hkey)]
      exact ⟨trivial, h⟩
  | override t s date value =>
    obtain ⟨rfl, rfl⟩ := of_decide_eq_true hc
    simp only [Session.serve, Numbering.override, Numbering.withKey]
    cases hkey : CounterKey.make t s date with
    | error e => exact ⟨rfl, h⟩
    | ok key => exact ⟨rfl, (h.filter _).withCounter key.text value⟩

/-- Both services forget the same. -/
lemma forget (h : Agrees tenant label m m') (x : TenantId) :
    Agrees tenant label (m.serve (.forget x)).2 (m'.serve (.forget x)).2 :=
  h.filter _

/-! ### Other calls -/

/-- A service whose ranges of the series are those that it had. -/
lemma of_ranges (m : Session Store) {a : Assoc String Range}
    (ha : ∀ {k : CounterKey}, k.OfSeries tenant label →
      a.get? k.text = m.service.ranges.get? k.text) :
    Agrees tenant label { m with service := { m.service with ranges := a } } m :=
  ⟨rfl, fun _ => rfl, ha⟩

lemma withCounter_left (m : Session Store) (hkey : key.Beside tenant label) (value : Nat) :
    Agrees tenant label { m with counters := m.counters.withCounter key.text value } m :=
  ⟨rfl, fun hk => (Store.counter_withCounter ..).trans (if_neg (hkey.text_ne hk)), fun _ => rfl⟩

lemma insert_left (m : Session Store) (hkey : key.Beside tenant label) (range : Range) :
    Agrees tenant label
      { m with service := { m.service with ranges := m.service.ranges.insert key.text range } } m :=
  of_ranges m fun hk => (Assoc.get?_insert ..).trans (if_neg (hkey.text_ne hk))

lemma keep_left (m : Session Store) (hkey : key.Beside tenant label) (range : Range) :
    Agrees tenant label { m with service := m.service.keep key range } m := by
  refine of_ranges m fun {k} hk => ?_
  rw [Assoc.get?_insert, if_neg (hkey.text_ne hk), Assoc.get?_filter, hkey.scope hk, Bool.not_false]
  cases m.service.ranges.get? k.text <;> rfl

lemma settle_left (m : Session Store) (hkey : key.Beside tenant label)
    (answer : Except NumberingError Nat) :
    Agrees tenant label { m with service := (m.service.settle key answer).2 } m := by
  unfold Numbering.settle
  cases m.service.strategy with
  | strict => exact .refl m
  | cached size pos =>
    cases answer with
    | error e => exact .refl m
    | ok ceiling =>
      simp only
      cases (Range.endingAt ceiling size).take? with
      | none => exact .refl m
      | some taken => exact .keep_left m hkey taken.2

lemma allocated_left (m : Session Store) (hkey : key.Beside tenant label) :
    Agrees tenant label (m.allocated key) m := by
  simp only [allocated, Numbering.allocate_eq, Numbering.fromMemory?_eq]
  cases m.service.taken? key with
  | some taken => exact .insert_left m hkey taken.2
  | none =>
    simp only [Option.map_none, Numbering.increment_store]
    split_ifs with hmax
    · exact .settle_left m hkey _
    · exact (settle_left _ hkey _).trans (.withCounter_left m hkey _)

/-- Two tenants without slash have no counter in common. -/
lemma forget_left (m : Session Store) {x : TenantId} (hx : '/' ∉ x.toList) (hne : x ≠ tenant) :
    Agrees tenant label (m.serve (.forget x)).2 m := by
  refine of_ranges m fun {k} hk => ?_
  have hscope : (CounterKey.tenantScope x).isPrefixOf k.text.toList = false := by
    rw [Bool.eq_false_iff, Ne, List.isPrefixOf_iff_prefix,
      CounterKey.tenantScope_isPrefix_iff hx hk.formed, hk.tenant]
    exact hne
  rw [Assoc.get?_filter, hscope, Bool.not_false]
  cases m.service.ranges.get? k.text <;> rfl

/-- A call that does not concern the series leaves it as it is. -/
lemma serve_left (m : Session Store) {c : Call} (hc : c.concerns tenant label = false)
    (hforget : ∀ x, c = .forget x → '/' ∉ x.toList) :
    Agrees tenant label (m.serve c).2 m := by
  obtain ⟨hon, hother⟩ := Bool.or_eq_false_iff.1 hc
  cases c with
  | forget x =>
    refine forget_left m (hforget x rfl) ?_
    rintro rfl
    simp at hother
  | nextValue t s date =>
    simp only [Session.serve, Numbering.nextValue, Numbering.withKey]
    cases hkey : CounterKey.make t s date with
    | error e => exact .refl m
    | ok key => exact allocated_left m (.of_make hkey (of_decide_eq_false hon))
  | nextNumber t s date =>
    simp only [Session.serve, Numbering.nextNumber, Numbering.withKey]
    cases hkey : CounterKey.make t s date with
    | error e => exact .refl m
    | ok key => exact allocated_left m (.of_make hkey (of_decide_eq_false hon))
  | peek t s date =>
    simp only [Session.serve, Numbering.peek, Numbering.withKey]
    cases CounterKey.make t s date <;> exact .refl m
  | override t s date value =>
    simp only [Session.serve, Numbering.override, Numbering.withKey]
    cases hkey : CounterKey.make t s date with
    | error e => exact .refl m
    | ok key =>
      have hbeside : key.Beside tenant label := .of_make hkey (of_decide_eq_false hon)
      have herase : Agrees tenant label { m with
          service := { m.service with ranges := m.service.ranges.erase key.text } } m :=
        of_ranges m fun hk => (Assoc.get?_erase ..).trans (if_neg (hbeside.text_ne hk))
      exact (withCounter_left _ hbeside value).trans herase

/-! ### Whole runs -/

/-- Leaving out what does not concern the series changes no reply on it. -/
lemma replies_filter (h : Agrees tenant label m m') {calls : List Call}
    (hforget : ∀ x, .forget x ∈ calls → '/' ∉ x.toList) :
    (m.replies calls).filter (·.1.isOn tenant label) =
      (m'.replies (calls.filter (·.concerns tenant label))).filter (·.1.isOn tenant label) := by
  induction calls generalizing m m' with
  | nil => rfl
  | cons c rest ih =>
    have hrest : ∀ x, .forget x ∈ rest → '/' ∉ x.toList := fun x hx =>
      hforget x (List.mem_cons_of_mem c hx)
    by_cases hon : c.isOn tenant label = true
    · obtain ⟨hreply, hagrees⟩ := h.serve hon
      have hc : c.concerns tenant label = true := by rw [Call.concerns, hon, Bool.true_or]
      rw [List.filter_cons_of_pos (by exact hc), replies, replies,
        List.filter_cons_of_pos (by exact hon), List.filter_cons_of_pos (by exact hon), hreply,
        ih hagrees hrest]
    · rw [replies, List.filter_cons_of_neg (by exact hon)]
      by_cases hc : c.concerns tenant label = true
      · obtain rfl : c = .forget tenant := by
          rw [Call.concerns, Bool.eq_false_iff.2 hon, Bool.false_or] at hc
          exact of_decide_eq_true hc
        rw [List.filter_cons_of_pos (by exact hc), replies,
          List.filter_cons_of_neg (by exact hon), ih (h.forget tenant) hrest]
      · have hleft := serve_left m (Bool.eq_false_iff.2 hc) fun x hx =>
          hforget x (hx ▸ List.mem_cons_self)
        rw [List.filter_cons_of_neg (by exact hc), ih (hleft.trans h) hrest]

end Agrees

/-- Whatever one service is asked over one store, the replies on the series of a tenant and a prefix
stay the same if all calls are left out that are neither on the series nor make the service forget
the tenant; so two runs in which these calls are the same give the same replies on it. The service
may be told to forget whatever has no slash in it. -/
theorem replies_of_series (strategy : Strategy) (store : Store) (tenant : TenantId)
    (label : String) (calls : List Call)
    (hforget : ∀ x, .forget x ∈ calls → '/' ∉ x.toList) :
    let m := new strategy store
    let onSeries (calls : List Call) := (m.replies calls).filter (·.1.isOn tenant label)
    onSeries calls = onSeries (calls.filter (·.concerns tenant label)) ∧
    ∀ calls', (∀ x, .forget x ∈ calls' → '/' ∉ x.toList) →
      calls'.filter (·.concerns tenant label) = calls.filter (·.concerns tenant label) →
      onSeries calls' = onSeries calls := by
  intro m onSeries
  have hleftOut : onSeries calls = onSeries (calls.filter (·.concerns tenant label)) :=
    (Agrees.refl m).replies_filter hforget
  refine ⟨hleftOut, fun calls' hforget' hsame => ?_⟩
  calc onSeries calls'
    _ = onSeries (calls'.filter (·.concerns tenant label)) :=
      (Agrees.refl m).replies_filter hforget'
    _ = onSeries calls := by rw [hsame, hleftOut]

/-- Calls on the invoices of one tenant, between calls for a tenant and on prefixes whose names
begin as theirs do. The service forgets both tenants, and a counter is given too great a value. -/
def similarNames : List Call :=
  let invoices : Sequence := ⟨"INV", .yearly, 5⟩
  let invoices2 : Sequence := ⟨"INV2", .yearly, 5⟩
  let hyphened : Sequence := ⟨"INV-2024", .never, 5⟩
  [.nextValue "t1" invoices june2024, .nextValue "t10" invoices june2024,
    .nextNumber "t1" invoices2 june2024, .nextNumber "t1" hyphened june2025,
    .nextNumber "t1" invoices june2024, .forget "t10", .override "t10" invoices june2024 70,
    .peek "t1" invoices june2024, .nextValue "t10" invoices june2025, .forget "t1",
    .nextValue "t1" invoices june2024,
    .override "t1" invoices2 june2024 18446744073709551615, .nextValue "t1" invoices2 june2024,
    .override "t1" invoices june2025 41, .nextNumber "t1" invoices june2025]

/-- The replies on the invoices of the tenant are those to the seven calls that concern them. -/
theorem replies_of_series_similarNames :
    let invoices : Sequence := ⟨"INV", .yearly, 5⟩
    let m := new (.cached 3 (by decide)) Store.empty
    (∀ x, .forget x ∈ similarNames → '/' ∉ x.toList) ∧
      similarNames.filter (·.concerns "t1" "INV") =
        [.nextValue "t1" invoices june2024, .nextNumber "t1" invoices june2024,
          .peek "t1" invoices june2024, .forget "t1", .nextValue "t1" invoices june2024,
          .override "t1" invoices june2025 41, .nextNumber "t1" invoices june2025] ∧
      (m.replies similarNames).filter (·.1.isOn "t1" "INV") =
        [(.nextValue "t1" invoices june2024, .value (.ok 1)),
          (.nextNumber "t1" invoices june2024, .text (.ok "INV-2024-00002")),
          (.peek "t1" invoices june2024, .value (.ok 3)),
          (.nextValue "t1" invoices june2024, .value (.ok 4)),
          (.override "t1" invoices june2025 41, .done (.ok ())),
          (.nextNumber "t1" invoices june2025, .text (.ok "INV-2025-00042"))] := by
  intro invoices m
  have hforget : ∀ x, .forget x ∈ similarNames → '/' ∉ x.toList := by
    intro x hx
    simp only [similarNames, List.mem_cons, List.not_mem_nil, Call.forget.injEq, reduceCtorEq,
      false_or, or_false] at hx
    rcases hx with rfl | rfl <;> decide
  have hconcerns : similarNames.filter (·.concerns "t1" "INV") =
      [.nextValue "t1" invoices june2024, .nextNumber "t1" invoices june2024,
        .peek "t1" invoices june2024, .forget "t1", .nextValue "t1" invoices june2024,
        .override "t1" invoices june2025 41, .nextNumber "t1" invoices june2025] := by
    decide +kernel
  refine ⟨hforget, hconcerns, ?_⟩
  have hreplies := (replies_of_series (.cached 3 (by decide)) .empty "t1" "INV" similarNames
    hforget).1
  rw [hconcerns] at hreplies
  refine hreplies.trans ?_
  decide +kernel

end Session

end Tenancy
