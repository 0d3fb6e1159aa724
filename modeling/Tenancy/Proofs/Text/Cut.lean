import Mathlib.Data.List.Basic
import Mathlib.Data.List.Infix
import Tenancy.Text.Cut

/-!
# Where a text is cut

A text is cut at the first character with a property if there is none before, and at the last one
if there is none after it. Where it is cut after a marker does not depend on what follows.
-/

namespace Tenancy.Text

variable {p : Char → Bool} {cs before after marker : List Char}

/-! ### At the first character -/

lemma cutAt?_append (h : ∀ c ∈ cs, p c = false) (rest : List Char) :
    cutAt? p (cs ++ rest) = (cutAt? p rest).map fun x => (cs ++ x.1, x.2) := by
  induction cs with
  | nil => exact Option.map_id'.symm
  | cons c cs ih =>
    rw [List.cons_append, cutAt?, h c List.mem_cons_self, if_neg Bool.false_ne_true,
      ih fun d hd => h d (List.mem_cons_of_mem _ hd), Option.map_map]
    rfl

lemma cutAt?_of_not_mem {d : Char} (h : d ∉ cs) (rest : List Char) :
    cutAt? (· = d) (cs ++ d :: rest) = some (cs, d :: rest) := by
  have hne : ∀ c ∈ cs, decide (c = d) = false := by
    rintro c hc
    exact decide_eq_false fun heq => h (heq ▸ hc)
  rw [cutAt?_append hne, cutAt?, if_pos (decide_eq_true rfl), Option.map_some, List.append_nil]

/-- A text is cut at or before a character with the property. -/
lemma exists_cutAt?_append {d : Char} (h : p d = true) (cs rest : List Char) :
    ∃ before after, cutAt? p (cs ++ d :: rest) = some (before, after) ∧ before ⊆ cs := by
  induction cs with
  | nil => exact ⟨[], d :: rest, if_pos h, List.nil_subset _⟩
  | cons c cs ih =>
    rw [List.cons_append, cutAt?]
    split
    next => exact ⟨_, _, rfl, List.nil_subset _⟩
    next =>
      obtain ⟨before, after, hcut, hsub⟩ := ih
      rw [hcut]
      exact ⟨_, _, rfl, List.cons_subset_cons c hsub⟩

lemma exists_of_cutAt? (h : cutAt? p cs = some (before, after)) :
    cs = before ++ after ∧ (∀ c ∈ before, p c = false) ∧
      ∃ d rest, after = d :: rest ∧ p d = true := by
  refine ⟨(append_of_cutAt? h).symm, ?_⟩
  induction cs generalizing before after with
  | nil => cases h
  | cons c cs ih =>
    rw [cutAt?] at h
    split at h
    next hc =>
      cases h
      exact ⟨by simp, c, cs, rfl, hc⟩
    next hc =>
      obtain ⟨⟨before, after⟩, hcut, heq⟩ := Option.map_eq_some_iff.1 h
      cases heq
      obtain ⟨hbefore, hafter⟩ := ih hcut
      exact ⟨List.forall_mem_cons.2 ⟨Bool.eq_false_iff.2 hc, hbefore⟩, hafter⟩

lemma forall_of_cutAt?_eq_none (h : cutAt? p cs = none) : ∀ c ∈ cs, p c = false := by
  induction cs with
  | nil => simp
  | cons c cs ih =>
    rw [cutAt?] at h
    split at h
    next => cases h
    next hc =>
      exact List.forall_mem_cons.2 ⟨Bool.eq_false_iff.2 hc, ih (Option.map_eq_none_iff.1 h)⟩

/-- The part before the first character with the property, or the whole text. -/
lemma getD_cutAt?_eq_iff :
    (cutAt? p cs).getD (cs, []) = (before, after) ↔
      cs = before ++ after ∧ (∀ c ∈ before, p c = false) ∧ ∀ c ∈ after.head?, p c = true := by
  constructor
  · intro h
    cases hcut : cutAt? p cs with
    | none =>
      rw [hcut] at h
      cases h
      exact ⟨(List.append_nil _).symm, forall_of_cutAt?_eq_none hcut, by simp⟩
    | some x =>
      rw [hcut] at h
      cases h
      obtain ⟨hcs, hbefore, d, rest, rfl, hd⟩ := exists_of_cutAt? hcut
      refine ⟨hcs, hbefore, ?_⟩
      simpa using hd
  · rintro ⟨rfl, hbefore, hafter⟩
    rw [cutAt?_append hbefore]
    cases after with
    | nil => simp [cutAt?]
    | cons c after => simp [cutAt?, hafter c rfl]

/-! ### At the last character -/

/-- What stands before a text with the character does not move its last occurrence. -/
lemma cutAtLast?_append {rest : List Char} (h : cutAtLast? p rest = some (before, after))
    (cs : List Char) : cutAtLast? p (cs ++ rest) = some (cs ++ before, after) := by
  induction cs with
  | nil => exact h
  | cons c cs ih => rw [List.cons_append, cutAtLast?, ih, List.cons_append]

lemma exists_cutAtLast?_cons {c : Char} (h : p c = true) (cs : List Char) :
    ∃ x, cutAtLast? p (c :: cs) = some x := by
  rw [cutAtLast?]
  cases cutAtLast? p cs with
  | none => exact ⟨_, if_pos h⟩
  | some x => exact ⟨_, rfl⟩

lemma cutAtLast?_eq_none_iff : cutAtLast? p cs = none ↔ ∀ c ∈ cs, p c = false := by
  induction cs with
  | nil => simp [cutAtLast?]
  | cons c cs ih =>
    rw [cutAtLast?]
    cases h : cutAtLast? p cs with
    | none =>
      have hcs := ih.1 h
      cases hc : p c with
      | true => simp [hc]
      | false => simpa [hc] using hcs
    | some x =>
      have hcs := mt ih.2 (by simp [h])
      simp only [List.forall_mem_cons, hcs, and_false, reduceCtorEq]

/-- The last place where a character occurs is the one after which it does not. -/
lemma cutAtLast?_of_not_mem {d : Char} (h : d ∉ cs) (before : List Char) :
    cutAtLast? (· = d) (before ++ d :: cs) = some (before, d :: cs) := by
  have hne : ∀ c ∈ cs, decide (c = d) = false := by
    rintro c hc
    exact decide_eq_false fun heq => h (heq ▸ hc)
  have hlast : cutAtLast? (· = d) (d :: cs) = some ([], d :: cs) := by
    rw [cutAtLast?, cutAtLast?_eq_none_iff.2 hne]
    simp
  rw [cutAtLast?_append hlast, List.append_nil]

lemma exists_of_cutAtLast? (h : cutAtLast? p cs = some (before, after)) :
    cs = before ++ after ∧ ∃ d rest, after = d :: rest ∧ p d = true ∧ ∀ c ∈ rest, p c = false := by
  induction cs generalizing before after with
  | nil => cases h
  | cons c cs ih =>
    rw [cutAtLast?] at h
    cases hcut : cutAtLast? p cs with
    | none =>
      simp only [hcut] at h
      split at h
      next hc =>
        cases h
        exact ⟨rfl, c, cs, rfl, hc, cutAtLast?_eq_none_iff.1 hcut⟩
      next => cases h
    | some x =>
      simp only [hcut] at h
      cases h
      obtain ⟨hcs, hafter⟩ := ih hcut
      exact ⟨congrArg (c :: ·) hcs, hafter⟩

/-! ### After a marker -/

lemma afterPrefix?_append (marker rest : List Char) :
    afterPrefix? marker (marker ++ rest) = some rest := by
  induction marker with
  | nil => rfl
  | cons m marker ih => rw [List.cons_append, afterPrefix?, if_pos rfl, ih]

lemma afterPrefix?_eq_none_iff : afterPrefix? marker cs = none ↔ ¬ marker <+: cs := by
  constructor
  · rintro h ⟨rest, rfl⟩
    rw [afterPrefix?_append] at h
    cases h
  · intro h
    cases hrest : afterPrefix? marker cs with
    | none => rfl
    | some rest => exact absurd ⟨rest, (eq_append_of_afterPrefix? hrest).symm⟩ h

lemma cutAfter?_of_prefix (marker rest : List Char) :
    cutAfter? marker (marker ++ rest) = some (marker, rest) := by
  cases h : marker ++ rest with
  | nil =>
    obtain ⟨rfl, rfl⟩ := List.append_eq_nil_iff.1 h
    rfl
  | cons c cs => rw [cutAfter?, ← h, afterPrefix?_append]

lemma append_of_cutAfter? (h : cutAfter? marker cs = some (before, after)) :
    cs = before ++ after ∧ marker.length ≤ before.length := by
  induction cs generalizing before after with
  | nil =>
    rw [cutAfter?] at h
    split at h
    next hmarker =>
      cases h
      exact ⟨rfl, by rw [hmarker]⟩
    next => cases h
  | cons c cs ih =>
    rw [cutAfter?] at h
    split at h
    next hprefix =>
      cases h
      exact ⟨eq_append_of_afterPrefix? hprefix, le_rfl⟩
    next =>
      obtain ⟨⟨before, after⟩, hcut, heq⟩ := Option.map_eq_some_iff.1 h
      cases heq
      obtain ⟨rfl, hle⟩ := ih hcut
      exact ⟨rfl, Nat.le_succ_of_le hle⟩

/-- Where the marker first occurs does not depend on what follows it. -/
lemma cutAfter?_append (h : cutAfter? marker cs = some (before, after)) (rest : List Char) :
    cutAfter? marker (before ++ rest) = some (before, rest) := by
  induction cs generalizing before after with
  | nil =>
    rw [cutAfter?] at h
    split at h
    next hmarker =>
      cases h
      rw [hmarker]
      exact cutAfter?_of_prefix [] rest
    next => cases h
  | cons c cs ih =>
    rw [cutAfter?] at h
    split at h
    next =>
      cases h
      exact cutAfter?_of_prefix marker rest
    next hprefix =>
      obtain ⟨⟨before, after⟩, hcut, heq⟩ := Option.map_eq_some_iff.1 h
      cases heq
      obtain ⟨rfl, hle⟩ := append_of_cutAfter? hcut
      have hnone : afterPrefix? marker (c :: (before ++ rest)) = none := by
        rw [afterPrefix?_eq_none_iff] at hprefix ⊢
        intro hmarker
        have hshort := List.prefix_of_prefix_length_le hmarker
          (List.prefix_append (c :: before) rest) (Nat.le_succ_of_le hle)
        exact hprefix (hshort.trans (List.prefix_append (c :: before) after))
      rw [List.cons_append, cutAfter?, hnone, ih hcut]
      rfl

/-- The marker occurs between the two parts of a text, and nowhere before. -/
structure IsFirst (marker cs before after : List Char) : Prop where
  eq_append : cs = before ++ (marker ++ after)
  least : ∀ before' after', cs = before' ++ (marker ++ after') → before.length ≤ before'.length

lemma IsFirst.nil (marker after : List Char) :
    IsFirst marker (marker ++ after) [] after :=
  ⟨rfl, fun _ _ _ => Nat.zero_le _⟩

lemma IsFirst.cons {c : Char} (h : IsFirst marker cs before after)
    (hstarts : ¬ marker <+: c :: cs) : IsFirst marker (c :: cs) (c :: before) after := by
  refine ⟨congrArg (c :: ·) h.eq_append, fun before' after' heq => ?_⟩
  cases before' with
  | nil => exact absurd ⟨after', heq.symm⟩ hstarts
  | cons d before' =>
    exact Nat.succ_le_succ (h.least before' after' (List.cons_eq_cons.1 heq).2)

lemma IsFirst.of_cons {c : Char} (h : IsFirst marker (c :: cs) (c :: before) after) :
    IsFirst marker cs before after ∧ ¬ marker <+: c :: cs := by
  refine ⟨⟨(List.cons_eq_cons.1 h.eq_append).2, fun before' after' heq => ?_⟩, ?_⟩
  · exact Nat.le_of_succ_le_succ (h.least (c :: before') after' (congrArg (c :: ·) heq))
  · rintro ⟨after', heq⟩
    exact Nat.not_succ_le_zero _ (h.least [] after' heq.symm)

lemma IsFirst.of_not_mem {d : Char} (h : d ∉ before) (after : List Char) :
    IsFirst [d] (before ++ d :: after) before after := by
  induction before with
  | nil => exact .nil [d] after
  | cons c before ih =>
    refine (ih fun hmem => h (List.mem_cons_of_mem c hmem)).cons ?_
    rintro ⟨rest, heq⟩
    exact h ((List.cons_eq_cons.1 heq).1 ▸ List.mem_cons_self)

/-- A text is cut after the first occurrence of the marker. -/
lemma exists_isFirst_of_cutAfter? (h : cutAfter? marker cs = some (before, after)) :
    ∃ skipped, before = skipped ++ marker ∧ IsFirst marker cs skipped after := by
  induction cs generalizing before after with
  | nil =>
    rw [cutAfter?] at h
    split at h
    next hmarker =>
      cases h
      subst hmarker
      exact ⟨[], rfl, .nil [] []⟩
    next => cases h
  | cons c cs ih =>
    rw [cutAfter?] at h
    split at h
    next rest hstarts =>
      cases h
      rw [eq_append_of_afterPrefix? hstarts]
      exact ⟨[], rfl, .nil _ _⟩
    next hstarts =>
      obtain ⟨⟨before, rest⟩, hcut, heq⟩ := Option.map_eq_some_iff.1 h
      cases heq
      obtain ⟨skipped, rfl, hfirst⟩ := ih hcut
      exact ⟨c :: skipped, rfl, hfirst.cons (afterPrefix?_eq_none_iff.1 hstarts)⟩

lemma cutAfter?_eq_none_iff : cutAfter? marker cs = none ↔ ¬ marker <:+: cs := by
  induction cs with
  | nil => simp [cutAfter?]
  | cons c cs ih =>
    rw [cutAfter?, List.infix_cons_iff]
    cases hstarts : afterPrefix? marker (c :: cs) with
    | none => simp [afterPrefix?_eq_none_iff.1 hstarts, ih]
    | some rest =>
      have hstarts : marker <+: c :: cs := ⟨rest, (eq_append_of_afterPrefix? hstarts).symm⟩
      simp [hstarts]

lemma IsFirst.cutAfter? (h : IsFirst marker cs before after) :
    Text.cutAfter? marker cs = some (before ++ marker, after) := by
  induction before generalizing cs with
  | nil =>
    rw [h.eq_append]
    exact cutAfter?_of_prefix marker after
  | cons c before ih =>
    obtain rfl : cs = c :: (before ++ (marker ++ after)) := h.eq_append
    obtain ⟨hrest, hstarts⟩ := h.of_cons
    rw [Text.cutAfter?, afterPrefix?_eq_none_iff.2 hstarts, ih hrest]
    rfl

end Tenancy.Text
