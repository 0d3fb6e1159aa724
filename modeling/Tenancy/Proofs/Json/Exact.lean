import Mathlib.Data.List.Sort
import Tenancy.Proofs.Json.Meaning

/-!
# Values without binary numbers

Reading may round a binary number once more. A value that has none is read back as it is, and it is
refused just if it nests too deeply: `toJson?_spelled`. The members of its outermost object may be
written in any order, `toJson?_spelled_of_perm`. What is read from any text has its members in order
and nests no deeper than is allowed, `wellFormed_of_toJson?`, so that it would be read back too.
-/

namespace Tenancy.Json

open Syntax

variable {key : String} {value : Json} {m : String × Json} {members sorted : List (String × Json)}
  {d : ℕ}

/-! ### Values without binary numbers -/

mutual

/-- Whether all numbers of a value are integers. -/
def isIntegral : Json → Bool
  | .number (.float _) => false
  | .array items => isIntegralItems items
  | .object members => isIntegralMembers members
  | _ => true

/-- Whether all numbers of the items of an array are integers. -/
def isIntegralItems : List Json → Bool
  | [] => true
  | item :: items => isIntegral item && isIntegralItems items

/-- Whether all numbers of the members of an object are integers. -/
def isIntegralMembers : List (String × Json) → Bool
  | [] => true
  | (_, value) :: members => isIntegral value && isIntegralMembers members

end

lemma isIntegralMembers_iff :
    isIntegralMembers members = true ↔ ∀ m ∈ members, m.2.isIntegral = true := by
  induction members with
  | nil => simp [isIntegralMembers]
  | cons m members ih => simp [isIntegralMembers, ih]

lemma wellFormedMembers_iff : WellFormedMembers members ↔ ∀ m ∈ members, m.2.WellFormed := by
  induction members with
  | nil => simp [WellFormedMembers]
  | cons m members ih => simp [WellFormedMembers, ih]

lemma membersDepth_le_iff : membersDepth members ≤ d ↔ ∀ m ∈ members, m.2.depth ≤ d := by
  induction members with
  | nil => simp [membersDepth]
  | cons m members ih => simp [membersDepth, ih]

lemma membersDepth_perm (h : members.Perm sorted) : membersDepth members = membersDepth sorted := by
  apply le_antisymm
  · exact membersDepth_le_iff.2 fun m hm => membersDepth_le_iff.1 le_rfl m (h.mem_iff.1 hm)
  · exact membersDepth_le_iff.2 fun m hm => membersDepth_le_iff.1 le_rfl m (h.mem_iff.2 hm)

/-! ### Members in order -/

lemma mem_putMember (h : m ∈ putMember key value members) : m = (key, value) ∨ m ∈ members := by
  induction members with
  | nil => exact .inl (List.mem_singleton.1 h)
  | cons m' members ih =>
    obtain ⟨key', value'⟩ := m'
    rw [putMember] at h
    split_ifs at h with hlt heq
    · exact List.mem_cons.1 h
    · exact (List.mem_cons.1 h).imp_right (List.mem_cons_of_mem _)
    · rcases List.mem_cons.1 h with rfl | hmem
      · exact .inr List.mem_cons_self
      · exact (ih hmem).imp_right (List.mem_cons_of_mem _)

lemma sorted_putMember (h : (members.map Prod.fst).Pairwise (· < ·)) (key : String)
    (value : Json) : ((putMember key value members).map Prod.fst).Pairwise (· < ·) := by
  induction members with
  | nil => exact List.pairwise_singleton _ _
  | cons m members ih =>
    obtain ⟨key', value'⟩ := m
    have hrest := List.pairwise_cons.1 h
    rw [putMember]
    split_ifs with hlt heq
    · refine List.pairwise_cons.2 ⟨fun k hk => ?_, h⟩
      rcases List.mem_cons.1 hk with rfl | hmem
      · exact hlt
      · exact hlt.trans (hrest.1 k hmem)
    · subst heq
      exact List.pairwise_cons.2 ⟨hrest.1, hrest.2⟩
    · refine List.pairwise_cons.2 ⟨fun k hk => ?_, ih hrest.2⟩
      obtain ⟨m, hm, rfl⟩ := List.mem_map.1 hk
      rcases mem_putMember hm with rfl | hmem
      · exact lt_of_le_of_ne (not_lt.1 hlt) (Ne.symm heq)
      · exact hrest.1 _ (List.mem_map_of_mem hmem)

/-- A member with a new key is added to the others. -/
lemma putMember_perm (h : key ∉ members.map Prod.fst) (value : Json) :
    (putMember key value members).Perm ((key, value) :: members) := by
  induction members with
  | nil => exact .refl _
  | cons m members ih =>
    obtain ⟨key', value'⟩ := m
    rw [List.map_cons, List.mem_cons, not_or] at h
    rw [putMember, if_neg h.1]
    split_ifs with hlt
    · exact .refl _
    · exact ((ih h.2).cons _).trans (.swap _ _ _)

lemma mem_of_mem_sortMembers (h : m ∈ sortMembers members) : m ∈ members := by
  suffices H : ∀ acc, m ∈ members.foldl (fun sorted m => putMember m.1 m.2 sorted) acc →
      m ∈ acc ∨ m ∈ members from (H [] h).resolve_left List.not_mem_nil
  clear h
  induction members with
  | nil => exact fun _ => .inl
  | cons m' members ih =>
    intro acc h
    rcases ih _ h with hacc | hmem
    · rcases mem_putMember hacc with rfl | hold
      · exact .inr List.mem_cons_self
      · exact .inl hold
    · exact .inr (List.mem_cons_of_mem _ hmem)

lemma sorted_sortMembers (members : List (String × Json)) :
    ((sortMembers members).map Prod.fst).Pairwise (· < ·) := by
  suffices H : ∀ acc : List (String × Json), (acc.map Prod.fst).Pairwise (· < ·) →
      ((members.foldl (fun sorted m => putMember m.1 m.2 sorted) acc).map Prod.fst).Pairwise
        (· < ·) from H [] List.Pairwise.nil
  induction members with
  | nil => exact fun _ h => h
  | cons m members ih => exact fun acc h => ih _ (sorted_putMember h m.1 m.2)

/-- If no key is repeated all members are kept. -/
lemma sortMembers_perm_self (h : (members.map Prod.fst).Nodup) :
    (sortMembers members).Perm members := by
  suffices H : ∀ acc : List (String × Json), ((acc ++ members).map Prod.fst).Nodup →
      (members.foldl (fun sorted m => putMember m.1 m.2 sorted) acc).Perm (acc ++ members) from
    H [] h
  clear h
  induction members with
  | nil => simp
  | cons m members ih =>
    intro acc h
    obtain ⟨key, value⟩ := m
    have hnew : key ∉ acc.map Prod.fst := by
      rw [List.map_append, List.nodup_append] at h
      exact fun hmem => h.2.2 key hmem key List.mem_cons_self rfl
    have hput := putMember_perm hnew value
    have hperm : (putMember key value acc ++ members).Perm (acc ++ (key, value) :: members) :=
      (hput.append_right members).trans List.perm_middle.symm
    rw [List.foldl_cons]
    exact (ih _ ((hperm.map Prod.fst).nodup_iff.2 h)).trans hperm

/-- Whatever order members are in, they are put in the one. -/
lemma sortMembers_eq_of_perm (h : members.Perm sorted)
    (hsorted : (sorted.map Prod.fst).Pairwise (· < ·)) : sortMembers members = sorted := by
  have hnodup : (members.map Prod.fst).Nodup :=
    (h.map Prod.fst).nodup_iff.2 (hsorted.imp ne_of_lt)
  have hleft : (sortMembers members).Pairwise fun a b => a.1 < b.1 :=
    List.pairwise_map.1 (sorted_sortMembers members)
  have hright : sorted.Pairwise fun a b => a.1 < b.1 := List.pairwise_map.1 hsorted
  refine ((sortMembers_perm_self hnodup).trans h).eq_of_pairwise ?_ hleft hright
  intro a b _ _ hab hba
  exact absurd (hab.trans hba) (lt_irrefl _)

/-! ### Reading back -/

mutual

/-- A value without binary numbers is read back as it is unless it nests too deeply. -/
theorem toJson?_spelled : ∀ (j : Json) (d : ℕ), j.WellFormed → j.isIntegral = true →
    toJson? d (spelled j) = if j.depth ≤ d then some j else none
  | .null, _, _, _ => (if_pos (Nat.zero_le _)).symm
  | .bool _, _, _, _ => (if_pos (Nat.zero_le _)).symm
  | .string _, _, _, _ => (if_pos (Nat.zero_le _)).symm
  | .number (.integer n), _, h, _ => by
    rw [spelled, toJson?, number?_ofInt h, Option.map_some]
    exact (if_pos (Nat.zero_le _)).symm
  | .number (.float _), _, _, hi => absurd hi Bool.false_ne_true
  | .array items, d, h, hi => by
    have hitems := itemsToJson?_spelled items (d - 1) h hi
    rw [spelled, toJson?, hitems, depth]
    split_ifs <;> first | rfl | omega
  | .object members, d, h, hi => by
    have hmembers := membersToJson?_spelled members (d - 1) h.2 hi
    rw [spelled, toJson?, hmembers, depth]
    split_ifs
    all_goals first | omega | rfl | skip
    rw [Option.map_some, ofMembers, sortMembers_of_pairwise h.1]

lemma itemsToJson?_spelled : ∀ (items : List Json) (d : ℕ), WellFormedItems items →
    isIntegralItems items = true →
    itemsToJson? d (spelledItems items) = if itemsDepth items ≤ d then some items else none
  | [], _, _, _ => by
    rw [itemsDepth, if_pos (Nat.zero_le _)]
    rfl
  | item :: items, d, h, hi => by
    obtain ⟨hitem, hitems⟩ := Bool.and_eq_true_iff.1 hi
    rw [spelledItems, itemsToJson?, toJson?_spelled item d h.1 hitem,
      itemsToJson?_spelled items d h.2 hitems, itemsDepth]
    by_cases hd : item.depth ≤ d <;> by_cases hds : itemsDepth items ≤ d <;> simp [hd, hds]

lemma membersToJson?_spelled : ∀ (members : List (String × Json)) (d : ℕ),
    WellFormedMembers members → isIntegralMembers members = true →
    membersToJson? d (spelledMembers members) =
      if membersDepth members ≤ d then some members else none
  | [], _, _, _ => by
    rw [membersDepth, if_pos (Nat.zero_le _)]
    rfl
  | (key, value) :: members, d, h, hi => by
    obtain ⟨hvalue, hmembers⟩ := Bool.and_eq_true_iff.1 hi
    rw [spelledMembers, membersToJson?, toJson?_spelled value d h.1 hvalue,
      membersToJson?_spelled members d h.2 hmembers, membersDepth]
    by_cases hd : value.depth ≤ d <;> by_cases hds : membersDepth members ≤ d <;>
      simp [hd, hds]

end

/-- An object without binary numbers is read back whatever order its members are written in. -/
theorem toJson?_spelled_of_perm (hperm : members.Perm sorted) (h : (object sorted).WellFormed)
    (hi : (object sorted).isIntegral = true) (d : ℕ) :
    toJson? d (spelled (.object members)) =
      if (object sorted).depth ≤ d then some (.object sorted) else none := by
  have hwell : WellFormedMembers members :=
    wellFormedMembers_iff.2 fun m hm => wellFormedMembers_iff.1 h.2 m (hperm.mem_iff.1 hm)
  have hintegral : isIntegralMembers members = true :=
    isIntegralMembers_iff.2 fun m hm => isIntegralMembers_iff.1 hi m (hperm.mem_iff.1 hm)
  rw [spelled, toJson?, membersToJson?_spelled members (d - 1) hwell hintegral,
    membersDepth_perm hperm, depth]
  split_ifs
  all_goals first | omega | rfl | skip
  rw [Option.map_some, ofMembers, sortMembers_eq_of_perm hperm h.1]

/-! ### What is read -/

lemma Numeral.le_of_number? {n : Numeral} {value : ℤ} (h : n.number? = some (.integer value)) :
    leastInteger ≤ value ∧ value ≤ greatestInteger := by
  unfold number? at h
  extract_lets whole signed at h
  split at h
  next hinteger =>
    obtain ⟨-, -, -, hleast, hgreatest⟩ := hinteger
    have hvalue : signed = value := Number.integer.inj (Option.some.inj h)
    exact hvalue ▸ ⟨hleast, hgreatest⟩
  next =>
    obtain ⟨x, -, hx⟩ := Option.map_eq_some_iff.1 h
    cases hx

mutual

/-- What is read has its members in order and nests no deeper than is allowed. -/
theorem wellFormed_of_toJson? : ∀ (s : Syntax) {d : ℕ} {j : Json}, toJson? d s = some j →
    (j.isIntegral = true → j.WellFormed) ∧ j.depth ≤ d
  | .null, _, _, h | .bool _, _, _, h => by
    cases h
    exact ⟨fun _ => trivial, Nat.zero_le _⟩
  | .number n, _, _, h => by
    obtain ⟨x, hx, rfl⟩ := Option.map_eq_some_iff.1 h
    refine ⟨fun hi => ?_, Nat.zero_le _⟩
    cases x with
    | integer value => exact Numeral.le_of_number? hx
    | float => exact absurd hi Bool.false_ne_true
  | .string s, _, _, h => by
    obtain ⟨s, -, rfl⟩ := Option.map_eq_some_iff.1 h
    exact ⟨fun _ => trivial, Nat.zero_le _⟩
  | .array items, d, _, h => by
    rw [toJson?] at h
    split_ifs at h with hd
    obtain ⟨items', hitems, rfl⟩ := Option.map_eq_some_iff.1 h
    obtain ⟨hwell, hdepth⟩ := wellFormed_of_itemsToJson? items hitems
    refine ⟨hwell, ?_⟩
    rw [depth]
    omega
  | .object members, d, _, h => by
    rw [toJson?] at h
    split_ifs at h with hd
    obtain ⟨members', hmembers, rfl⟩ := Option.map_eq_some_iff.1 h
    have hkept := wellFormed_of_membersToJson? members hmembers
    refine ⟨fun hi => ⟨sorted_sortMembers members', ?_⟩, ?_⟩
    · refine wellFormedMembers_iff.2 fun m hm => ?_
      exact (hkept m (mem_of_mem_sortMembers hm)).1 (isIntegralMembers_iff.1 hi m hm)
    · have hdepth : membersDepth (sortMembers members') ≤ d - 1 :=
        membersDepth_le_iff.2 fun m hm => (hkept m (mem_of_mem_sortMembers hm)).2
      rw [ofMembers, depth]
      omega

lemma wellFormed_of_itemsToJson? : ∀ (items : List Syntax) {d : ℕ} {values : List Json},
    itemsToJson? d items = some values →
    (isIntegralItems values = true → WellFormedItems values) ∧ itemsDepth values ≤ d
  | [], _, _, h => by
    cases h
    exact ⟨fun _ => trivial, Nat.zero_le _⟩
  | item :: items, _, _, h => by
    simp only [itemsToJson?, Option.bind_eq_bind, Option.bind_eq_some_iff, Option.pure_def,
      Option.some.injEq] at h
    obtain ⟨value, hvalue, values, hvalues, rfl⟩ := h
    obtain ⟨hwell, hdepth⟩ := wellFormed_of_toJson? item hvalue
    obtain ⟨hwells, hdepths⟩ := wellFormed_of_itemsToJson? items hvalues
    refine ⟨fun hi => ?_, max_le hdepth hdepths⟩
    obtain ⟨hitem, hitems⟩ := Bool.and_eq_true_iff.1 hi
    exact ⟨hwell hitem, hwells hitems⟩

lemma wellFormed_of_membersToJson? : ∀ (members : List (Option String × Syntax)) {d : ℕ}
    {values : List (String × Json)}, membersToJson? d members = some values →
    ∀ m ∈ values, (m.2.isIntegral = true → m.2.WellFormed) ∧ m.2.depth ≤ d
  | [], _, _, h => by
    cases h
    exact List.forall_mem_nil _
  | (key, item) :: members, _, _, h => by
    simp only [membersToJson?, Option.bind_eq_bind, Option.bind_eq_some_iff, Option.pure_def,
      Option.some.injEq] at h
    obtain ⟨key', -, value, hvalue, values, hvalues, rfl⟩ := h
    exact List.forall_mem_cons.2
      ⟨wellFormed_of_toJson? item hvalue, wellFormed_of_membersToJson? members hvalues⟩

end

end Tenancy.Json
