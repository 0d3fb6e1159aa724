import Tenancy.Proofs.Numbering.Series

/-!
# Calls that fail

The place where counters are kept can be out of reach at any time. A call of a service then fails,
unless it can do without the counters, and leaves the service as it was: it asks for the counter
before it touches what is in memory. `failures_invisible`: in every run the calls that fail can be
left out, and all others get the same replies.
-/

namespace Tenancy

open Tenancy.Numbering (Call Reply)
open Cluster (invoices june2024 june2025)

/-! ### Places that can be out of reach -/

/-- A place where calls that fail change nothing. -/
class Counters.Steady (σ : Type) [Counters σ] : Prop where
  increment : ∀ {key amount} {s s' : σ} {e},
    Counters.increment key amount s = (.error e, s') → s' = s
  set : ∀ {key value} {s s' : σ} {e}, Counters.set key value s = (.error e, s') → s' = s
  current : ∀ {key} {s s' : σ} {e}, Counters.current key s = (.error e, s') → s' = s

instance : Counters.Steady Store where
  increment := by
    intro key amount s s' e h
    rw [Numbering.increment_store] at h
    split_ifs at h <;> cases h
    rfl
  set h := by cases h
  current h := by cases h

/-- A place that is out of reach as long as it has a fault. -/
structure Outage (σ : Type) where
  place : σ
  fault : Option NumberingError

namespace Outage

variable {σ : Type}

/-- Carries out a call, or fails with the fault. -/
def attempt {α : Type} (u : Outage σ) (call : σ → Except NumberingError α × σ) :
    Except NumberingError α × Outage σ :=
  match u.fault with
  | some e => (.error e, u)
  | none => ((call u.place).1, { u with place := (call u.place).2 })

instance [Counters σ] : Counters (Outage σ) where
  increment key amount u := u.attempt (Counters.increment key amount)
  set key value u := u.attempt (Counters.set key value)
  current key u := u.attempt (Counters.current key)

lemma eq_of_attempt {α : Type} {u u' : Outage σ} {call : σ → Except NumberingError α × σ}
    {e : NumberingError} (hcall : ∀ {s' e}, call u.place = (.error e, s') → s' = u.place)
    (h : u.attempt call = (.error e, u')) : u' = u := by
  unfold attempt at h
  split at h
  · cases h
    rfl
  · obtain ⟨hr, rfl⟩ := Prod.mk.inj h
    have hplace : (call u.place).2 = u.place := hcall (Prod.ext hr rfl)
    simp only [hplace]

instance [Counters σ] [Counters.Steady σ] : Counters.Steady (Outage σ) where
  increment h := eq_of_attempt Counters.Steady.increment h
  set h := eq_of_attempt Counters.Steady.set h
  current h := eq_of_attempt Counters.Steady.current h

end Outage

/-! ### Calls of a service -/

/-- Whether a call did what it was asked for. -/
def Numbering.Reply.isOk : Reply → Bool
  | .value r => r.isOk
  | .text r => r.isOk
  | .done r => r.isOk
  | .forgotten _ => true

namespace Numbering

variable {σ : Type} [Counters σ] {n n' : Numbering} {counters counters' : σ} {key : CounterKey}
  {e : NumberingError}

lemma take?_endingAt {size : Nat} (pos : 0 < size) (ceiling : Nat) :
    ((Range.endingAt ceiling size).take?).isSome = true := by
  simp [Range.take?, Range.endingAt, Nat.pos_iff_ne_zero.1 pos]

/-- What is in memory is touched only when the counter has answered. -/
lemma settle_of_error {answer : Except NumberingError Nat}
    (h : n.settle key answer = (.error e, n')) : (∃ fault, answer = .error fault) ∧ n' = n := by
  unfold settle at h
  split at h
  · cases h
    exact ⟨⟨e, rfl⟩, rfl⟩
  · cases h
    exact ⟨⟨_, rfl⟩, rfl⟩
  next size pos ceiling _ =>
    have hsome := take?_endingAt pos ceiling
    split at h
    next hnone =>
      rw [hnone] at hsome
      cases hsome
    next => cases h

variable [Counters.Steady σ]

/-- A request that fails leaves memory and counters as they were. -/
lemma allocate_of_error (h : n.allocate key counters = (.error e, n', counters')) :
    n' = n ∧ counters' = counters := by
  rw [allocate_eq] at h
  split at h
  · cases h
  · obtain ⟨hr, h⟩ := Prod.mk.inj h
    obtain ⟨rfl, rfl⟩ := Prod.mk.inj h
    obtain ⟨⟨fault, hanswer⟩, hn⟩ := settle_of_error (Prod.ext hr rfl)
    exact ⟨hn, Counters.Steady.increment (Prod.ext hanswer rfl)⟩

variable {α : Type} {tenant : TenantId} {s : Sequence} {date : Date}

omit [Counters σ] [Counters.Steady σ] in
/-- A call whose counter is not well formed changes nothing, so that it is enough to look at the
others. -/
lemma withKey_of_error {body : CounterKey → Except NumberingError α × Numbering × σ}
    (hbody : ∀ {key e}, body key = (.error e, n', counters') → n' = n ∧ counters' = counters)
    (h : n.withKey tenant s date counters body = (.error e, n', counters')) :
    n' = n ∧ counters' = counters := by
  unfold withKey at h
  split at h
  · cases h
    exact ⟨rfl, rfl⟩
  · exact hbody h

lemma nextValue_of_error (h : n.nextValue tenant s date counters = (.error e, n', counters')) :
    n' = n ∧ counters' = counters :=
  withKey_of_error allocate_of_error h

lemma nextNumber_of_error (h : n.nextNumber tenant s date counters = (.error e, n', counters')) :
    n' = n ∧ counters' = counters := by
  refine withKey_of_error (fun {key e} hbody => ?_) h
  rcases hresult : n.allocate key counters with ⟨r, n₁, counters₁⟩
  rw [hresult] at hbody
  cases r with
  | error fault =>
    cases hbody
    exact allocate_of_error hresult
  | ok value => cases hbody

lemma peek_of_error (h : n.peek tenant s date counters = (.error e, n', counters')) :
    n' = n ∧ counters' = counters := by
  refine withKey_of_error (fun {key e} hbody => ?_) h
  obtain ⟨hr, hrest⟩ := Prod.mk.inj hbody
  obtain ⟨rfl, rfl⟩ := Prod.mk.inj hrest
  exact ⟨rfl, Counters.Steady.current (Prod.ext hr rfl)⟩

/-- The range in memory is given up only when the counter has its value. -/
lemma override_of_error {value : Nat}
    (h : n.override tenant s date value counters = (.error e, n', counters')) :
    n' = n ∧ counters' = counters := by
  refine withKey_of_error (fun {key e} hbody => ?_) h
  split at hbody
  next hset =>
    cases hbody
    exact ⟨rfl, Counters.Steady.set hset⟩
  next => cases hbody

end Numbering

namespace Session

variable {σ : Type} [Counters σ]

/-- A call that fails leaves the session as it was. -/
lemma serve_of_failed [Counters.Steady σ] (m : Session σ) {c : Call}
    (h : (m.serve c).1.isOk = false) : (m.serve c).2 = m := by
  have hfault {α : Type} {r : Except NumberingError α} (hr : r.isOk = false) :
      ∃ e, r = .error e := by
    cases r with
    | error e => exact ⟨e, rfl⟩
    | ok a => cases hr
  cases c with
  | forget tenant => cases h
  | nextValue tenant s date =>
    obtain ⟨e, he⟩ := hfault h
    obtain ⟨hn, hc⟩ := Numbering.nextValue_of_error (Prod.ext he rfl)
    simp only [serve, hn, hc]
  | nextNumber tenant s date =>
    obtain ⟨e, he⟩ := hfault h
    obtain ⟨hn, hc⟩ := Numbering.nextNumber_of_error (Prod.ext he rfl)
    simp only [serve, hn, hc]
  | peek tenant s date =>
    obtain ⟨e, he⟩ := hfault h
    obtain ⟨hn, hc⟩ := Numbering.peek_of_error (Prod.ext he rfl)
    simp only [serve, hn, hc]
  | override tenant s date value =>
    obtain ⟨e, he⟩ := hfault h
    obtain ⟨hn, hc⟩ := Numbering.override_of_error (Prod.ext he rfl)
    simp only [serve, hn, hc]

/-! ### Runs with faults -/

end Session

/-- A call, with the fault that the place has as long as the call lasts. -/
structure Numbering.Trial where
  call : Call
  fault : Option NumberingError

open Tenancy.Numbering (Trial)

namespace Session

variable {σ : Type} [Counters σ] {m : Session σ} {t : Trial} {trials : List Trial}

/-- What a call gives over a place that may be out of reach, and the session after it. -/
def attempt (m : Session σ) (t : Trial) : Reply × Session σ :=
  let (reply, m') := serve ⟨m.service, (⟨m.counters, t.fault⟩ : Outage σ)⟩ t.call
  (reply, ⟨m'.service, m'.counters.place⟩)

/-- The calls with what each of them gives. -/
def attempts (m : Session σ) : List Trial → List (Trial × Reply)
  | [] => []
  | t :: trials => (t, (m.attempt t).1) :: (m.attempt t).2.attempts trials

/-- What the session is after several calls. -/
def after (m : Session σ) (trials : List Trial) : Session σ :=
  trials.foldl (fun m t => (m.attempt t).2) m

lemma allocate_outage (n : Numbering) (key : CounterKey) (counters : σ) :
    n.allocate key (⟨counters, none⟩ : Outage σ) =
      ((n.allocate key counters).1, (n.allocate key counters).2.1,
        ⟨(n.allocate key counters).2.2, none⟩) := by
  rw [Numbering.allocate_eq, Numbering.allocate_eq]
  cases n.fromMemory? key <;> rfl

/-- Without a fault it is the call itself. -/
lemma attempt_of_none (m : Session σ) (c : Call) : m.attempt ⟨c, none⟩ = m.serve c := by
  cases c with
  | forget tenant => rfl
  | nextValue tenant s date =>
    simp only [attempt, serve, Numbering.nextValue, Numbering.withKey]
    cases CounterKey.make tenant s date with
    | error e => rfl
    | ok key => simp only [allocate_outage]
  | nextNumber tenant s date =>
    simp only [attempt, serve, Numbering.nextNumber, Numbering.withKey]
    cases CounterKey.make tenant s date with
    | error e => rfl
    | ok key => simp only [allocate_outage]
  | peek tenant s date =>
    simp only [attempt, serve, Numbering.peek, Numbering.withKey]
    cases CounterKey.make tenant s date <;> rfl
  | override tenant s date value =>
    simp only [attempt, serve, Numbering.override, Numbering.withKey]
    cases CounterKey.make tenant s date with
    | error e => rfl
    | ok key =>
      have hset : Counters.set key value (⟨m.counters, none⟩ : Outage σ) =
          ((Counters.set key value m.counters).1, ⟨(Counters.set key value m.counters).2, none⟩) :=
        rfl
      simp only [hset]
      rcases Counters.set key value m.counters with ⟨r, counters⟩
      cases r <;> rfl

lemma attempt_of_failed [Counters.Steady σ] (h : (m.attempt t).1.isOk = false) :
    (m.attempt t).2 = m := by
  have hserve := serve_of_failed (⟨m.service, ⟨m.counters, t.fault⟩⟩ : Session (Outage σ)) h
  simp only [attempt, hserve]

lemma after_append (m : Session σ) (past more : List Trial) :
    m.after (past ++ more) = (m.after past).after more :=
  List.foldl_append

/-- As long as all calls fail the session stays as it is. -/
lemma after_of_failed [Counters.Steady σ]
    (h : ∀ x ∈ m.attempts trials, x.2.isOk = false) : m.after trials = m := by
  induction trials with
  | nil => rfl
  | cons t rest ih =>
    have hsame : (m.attempt t).2 = m := attempt_of_failed (h _ List.mem_cons_self)
    have hrest : m.after (t :: rest) = m.after rest := by
      rw [after, List.foldl_cons, hsame, after]
    rw [hrest]
    refine ih fun x hx => h x (List.mem_cons_of_mem _ ?_)
    rwa [hsame]

/-- What is left of a run without the calls that fail. -/
def kept (m : Session σ) (trials : List Trial) : List (Trial × Reply) :=
  (m.attempts trials).filter (·.2.isOk)

/-- The calls that do not fail get the same replies by themselves, and leave the same behind. -/
lemma attempts_kept [Counters.Steady σ] (m : Session σ) (trials : List Trial) :
    m.attempts ((m.kept trials).map Prod.fst) = m.kept trials ∧
      m.after ((m.kept trials).map Prod.fst) = m.after trials := by
  induction trials generalizing m with
  | nil => exact ⟨rfl, rfl⟩
  | cons t rest ih =>
    obtain ⟨hreplies, hafter⟩ := ih (m.attempt t).2
    cases hok : (m.attempt t).1.isOk with
    | true =>
      have hkept : m.kept (t :: rest) = (t, (m.attempt t).1) :: (m.attempt t).2.kept rest :=
        List.filter_cons_of_pos hok
      rw [hkept]
      exact ⟨congrArg _ hreplies, hafter⟩
    | false =>
      have hsame : (m.attempt t).2 = m := attempt_of_failed hok
      have hkept : m.kept (t :: rest) = (m.attempt t).2.kept rest :=
        List.filter_cons_of_neg (by simp [hok])
      have hrun : m.after (t :: rest) = (m.attempt t).2.after rest := rfl
      rw [hkept, hrun]
      rw [hsame] at hreplies hafter ⊢
      exact ⟨hreplies, hafter⟩

/-- Over any place that may be out of reach at any call, and where calls that fail change nothing,
the calls that fail can be left out of a run: all others get the same replies, and service and
counters are in the end the same. For each call that fails leaves memory and counters as they were,
so that, however many calls fail after it, it then gets what it would have got without the fault. -/
theorem failures_invisible [Counters.Steady σ] (m : Session σ) (trials : List Trial) :
    (m.attempts ((m.kept trials).map Prod.fst) = m.kept trials ∧
      m.after ((m.kept trials).map Prod.fst) = m.after trials) ∧
    ∀ past t rest, trials = past ++ t :: rest → ((m.after past).attempt t).1.isOk = false →
      m.after (past ++ [t]) = m.after past ∧
      ∀ failing, (∀ x ∈ (m.after past).attempts (t :: failing), x.2.isOk = false) →
        (m.after (past ++ t :: failing)).attempt ⟨t.call, none⟩ = (m.after past).serve t.call := by
  refine ⟨m.attempts_kept trials, fun past t rest _ hfailed => ⟨?_, fun failing hall => ?_⟩⟩
  · rw [after_append]
    exact attempt_of_failed hfailed
  · rw [after_append, after_of_failed hall, attempt_of_none]

/-- Numbers are drawn for two years in ranges of two, an override comes in between, and the counters
are out of reach at four calls. The second one can do without them, and the others fail. -/
def yearBetween : List Trial :=
  let fault := some (NumberingError.store (.transaction "down"))
  [⟨.nextValue "t1" invoices june2024, none⟩, ⟨.nextValue "t1" invoices june2025, fault⟩,
    ⟨.nextNumber "t1" invoices june2024, fault⟩, ⟨.override "t1" invoices june2024 70, none⟩,
    ⟨.nextValue "t1" invoices june2024, none⟩, ⟨.override "t1" invoices june2024 90, fault⟩,
    ⟨.nextValue "t1" invoices june2024, none⟩, ⟨.nextNumber "t1" invoices june2024, fault⟩,
    ⟨.forget "t2", fault⟩, ⟨.nextNumber "t1" invoices june2024, none⟩]

/-- The range of 2024 outlasts the request for 2025 that fails, the numbers go on where the override
that succeeds has put them, and the last request gives what the one before it failed to. -/
theorem failures_invisible_yearBetween :
    let m := new (.cached 2 Nat.two_pos) Store.empty
    Counters.Steady Store ∧
    (m.kept yearBetween).map Prod.snd = [.value (.ok 1), .text (.ok "INV-2024-00002"), .done (.ok ()),
      .value (.ok 71), .value (.ok 72), .forgotten 0, .text (.ok "INV-2024-00073")] ∧
    m.attempts ((m.kept yearBetween).map Prod.fst) = m.kept yearBetween ∧
    ((m.after (yearBetween.take 8)).attempt ⟨.nextNumber "t1" invoices june2024, none⟩).1 =
      .text (.ok "INV-2024-00073") := by
  intro m
  obtain ⟨⟨hreplies, -⟩, hfailed⟩ := failures_invisible m yearBetween
  refine ⟨inferInstance, by decide +kernel, hreplies, ?_⟩
  obtain ⟨-, hretry⟩ := hfailed (yearBetween.take 7)
    ⟨.nextNumber "t1" invoices june2024, some (.store (.transaction "down"))⟩ (yearBetween.drop 8)
    rfl (by decide +kernel)
  have hsame := hretry [] (by decide +kernel)
  exact (congrArg Prod.fst hsame).trans (by decide +kernel)

end Session

end Tenancy
