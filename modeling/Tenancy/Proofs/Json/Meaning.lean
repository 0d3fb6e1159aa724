import Mathlib.Data.String.Basic
import Tenancy.Proofs.Json.Magnitude
import Tenancy.Proofs.Json.Reading

/-!
# The meaning of what was written

A value is read back from its text, `exists_ofText?_text`, if its numbers have 64 bits, its objects
are in order and it is not nested too deeply. Reading may round a binary number once more, so what
is read is equal to what was written up to its binary numbers: both have one `outline`.
-/

namespace Tenancy.Json

open Syntax

/-! ### Values that can be kept -/

/-- Whether a number is one of 64 bits. -/
def Number.WellFormed : Number → Prop
  | .integer n => leastInteger ≤ n ∧ n ≤ greatestInteger
  | .float x => x.InRange

mutual

/-- Whether the numbers of a value have 64 bits and the keys of its objects are in ascending
order. -/
def WellFormed : Json → Prop
  | .null | .bool _ | .string _ => True
  | .number n => n.WellFormed
  | .array items => WellFormedItems items
  | .object members => (members.map Prod.fst).Pairwise (· < ·) ∧ WellFormedMembers members

/-- Whether the items of an array are well formed. -/
def WellFormedItems : List Json → Prop
  | [] => True
  | item :: items => WellFormed item ∧ WellFormedItems items

/-- Whether the values of the members of an object are well formed. -/
def WellFormedMembers : List (String × Json) → Prop
  | [] => True
  | (_, value) :: members => WellFormed value ∧ WellFormedMembers members

end

mutual

/-- How deep arrays and objects nest. -/
def depth : Json → ℕ
  | .null | .bool _ | .number _ | .string _ => 0
  | .array items => itemsDepth items + 1
  | .object members => membersDepth members + 1

/-- How deep the items of an array nest. -/
def itemsDepth : List Json → ℕ
  | [] => 0
  | item :: items => max (depth item) (itemsDepth items)

/-- How deep the values of the members of an object nest. -/
def membersDepth : List (String × Json) → ℕ
  | [] => 0
  | (_, value) :: members => max (depth value) (membersDepth members)

end

mutual

/-- The value with zero in place of every binary number. -/
def outline : Json → Json
  | .number (.float _) => .number (.float ⟨false, 0, Binary64.leastExponent⟩)
  | .array items => .array (outlineItems items)
  | .object members => .object (outlineMembers members)
  | j => j

/-- The items of an array with zero in place of every binary number. -/
def outlineItems : List Json → List Json
  | [] => []
  | item :: items => outline item :: outlineItems items

/-- The members of an object with zero in place of every binary number. -/
def outlineMembers : List (String × Json) → List (String × Json)
  | [] => []
  | (key, value) :: members => (key, outline value) :: outlineMembers members

end

lemma keys_outlineMembers (members : List (String × Json)) :
    (outlineMembers members).map Prod.fst = members.map Prod.fst := by
  induction members with
  | nil => rfl
  | cons m members ih => rw [outlineMembers, List.map_cons, List.map_cons, ih]

lemma exists_object_of_outline {j : Json} {members : List (String × Json)}
    (h : j.outline = .object members) : ∃ members', j = .object members' := by
  cases j with
  | object members' => exact ⟨members', rfl⟩
  | number n => cases n <;> cases h
  | _ => cases h

mutual

/-- Binary numbers do not matter for how deep a value nests. -/
lemma depth_outline : ∀ j : Json, (outline j).depth = j.depth
  | .null | .bool _ | .number (.integer _) | .number (.float _) | .string _ => rfl
  | .array items => by rw [outline, depth, depth, itemsDepth_outlineItems items]
  | .object members => by rw [outline, depth, depth, membersDepth_outlineMembers members]

lemma itemsDepth_outlineItems : ∀ items : List Json,
    itemsDepth (outlineItems items) = itemsDepth items
  | [] => rfl
  | item :: items => by
    rw [outlineItems, itemsDepth, itemsDepth, depth_outline item, itemsDepth_outlineItems items]

lemma membersDepth_outlineMembers : ∀ members : List (String × Json),
    membersDepth (outlineMembers members) = membersDepth members
  | [] => rfl
  | (key, value) :: members => by
    rw [outlineMembers, membersDepth, membersDepth, depth_outline value,
      membersDepth_outlineMembers members]

end

/-! ### Members in order -/

lemma putMember_of_forall_lt {key : String} {members : List (String × Json)}
    (h : ∀ m ∈ members, m.1 < key) (value : Json) :
    putMember key value members = members ++ [(key, value)] := by
  induction members with
  | nil => rfl
  | cons m members ih =>
    have hlt : m.1 < key := h m List.mem_cons_self
    rw [putMember, if_neg (lt_asymm hlt), if_neg (ne_of_gt hlt),
      ih fun m' hm' => h m' (List.mem_cons_of_mem _ hm'), List.cons_append]

/-- Members in ascending order stay as they are. -/
lemma sortMembers_of_pairwise {members : List (String × Json)}
    (h : (members.map Prod.fst).Pairwise (· < ·)) : sortMembers members = members := by
  suffices H : ∀ sorted, ((sorted ++ members).map Prod.fst).Pairwise (· < ·) →
      members.foldl (fun sorted m => putMember m.1 m.2 sorted) sorted = sorted ++ members by
    exact H [] h
  clear h
  induction members with
  | nil => simp
  | cons m members ih =>
    intro sorted h
    have hlt : ∀ m' ∈ sorted, m'.1 < m.1 := by
      intro m' hm'
      rw [List.map_append, List.pairwise_append] at h
      exact h.2.2 _ (List.mem_map_of_mem hm') _ (by simp)
    rw [List.foldl_cons, putMember_of_forall_lt hlt, ih _ (by simpa using h)]
    simp

/-! ### Reading back -/

lemma number?_ofInt {n : ℤ} (h : leastInteger ≤ n ∧ n ≤ greatestInteger) :
    (Numeral.ofInt n).number? = some (.integer n) := by
  have hvalue : (if (Numeral.ofInt n).negative then
      -(Nat.ofDigitChars 10 (Numeral.ofInt n).whole 0 : ℤ)
      else Nat.ofDigitChars 10 (Numeral.ofInt n).whole 0) = n := by
    simp only [Numeral.ofInt, Text.ofDigitChars_decimal, decide_eq_true_eq]
    split <;> omega
  have hzero : ¬ ((Numeral.ofInt n).negative = true ∧
      Nat.ofDigitChars 10 (Numeral.ofInt n).whole 0 = 0) := by
    simp only [Numeral.ofInt, Text.ofDigitChars_decimal, decide_eq_true_eq]
    omega
  rw [Numeral.number?]
  simp only [hvalue]
  rw [if_pos ⟨rfl, rfl, hzero, h⟩]

mutual

/-- What a value spells means a value like it. -/
theorem exists_toJson? : ∀ (j : Json) {d : ℕ}, j.WellFormed → j.depth ≤ d →
    ∃ j', toJson? d (spelled j) = some j' ∧ j'.WellFormed ∧ j'.outline = j.outline
  | .null, _, _, _ => ⟨.null, rfl, trivial, rfl⟩
  | .bool b, _, _, _ => ⟨.bool b, rfl, trivial, rfl⟩
  | .number (.integer n), d, h, _ => by
    refine ⟨.number (.integer n), ?_, h, rfl⟩
    rw [spelled, toJson?, number?_ofInt h, Option.map_some]
  | .number (.float x), d, h, _ => by
    obtain ⟨y, hy, hrange⟩ := Numeral.exists_number (x := x) h
    refine ⟨.number (.float y), ?_, hrange, rfl⟩
    rw [spelled, toJson?, hy, Option.map_some]
  | .string s, _, _, _ => ⟨.string s, rfl, trivial, rfl⟩
  | .array items, d, h, hd => by
    rw [depth] at hd
    obtain ⟨items', hread, hwell, hout⟩ := exists_itemsToJson? items (d := d - 1) h (by omega)
    refine ⟨.array items', ?_, hwell, by rw [outline, outline, hout]⟩
    rw [spelled, toJson?, if_neg (by omega), hread, Option.map_some]
  | .object members, d, h, hd => by
    rw [depth] at hd
    obtain ⟨members', hread, hwell, hout⟩ :=
      exists_membersToJson? members (d := d - 1) h.2 (by omega)
    have hkeys : (members'.map Prod.fst).Pairwise (· < ·) := by
      rw [← keys_outlineMembers, hout, keys_outlineMembers]
      exact h.1
    refine ⟨.object members', ?_, ⟨hkeys, hwell⟩, by rw [outline, outline, hout]⟩
    rw [spelled, toJson?, if_neg (by omega), hread, Option.map_some, ofMembers,
      sortMembers_of_pairwise hkeys]

lemma exists_itemsToJson? : ∀ (items : List Json) {d : ℕ}, WellFormedItems items →
    itemsDepth items ≤ d → ∃ items', itemsToJson? d (spelledItems items) = some items' ∧
      WellFormedItems items' ∧ outlineItems items' = outlineItems items
  | [], _, _, _ => ⟨[], rfl, trivial, rfl⟩
  | item :: items, d, h, hd => by
    rw [itemsDepth, max_le_iff] at hd
    obtain ⟨item', hread, hwell, hout⟩ := exists_toJson? item h.1 hd.1
    obtain ⟨items', hreads, hwells, houts⟩ := exists_itemsToJson? items h.2 hd.2
    refine ⟨item' :: items', ?_, ⟨hwell, hwells⟩, by rw [outlineItems, outlineItems, hout, houts]⟩
    simp [spelledItems, itemsToJson?, hread, hreads]

lemma exists_membersToJson? : ∀ (members : List (String × Json)) {d : ℕ},
    WellFormedMembers members → membersDepth members ≤ d →
    ∃ members', membersToJson? d (spelledMembers members) = some members' ∧
      WellFormedMembers members' ∧ outlineMembers members' = outlineMembers members
  | [], _, _, _ => ⟨[], rfl, trivial, rfl⟩
  | (key, value) :: members, d, h, hd => by
    rw [membersDepth, max_le_iff] at hd
    obtain ⟨value', hread, hwell, hout⟩ := exists_toJson? value h.1 hd.1
    obtain ⟨members', hreads, hwells, houts⟩ := exists_membersToJson? members h.2 hd.2
    refine ⟨(key, value') :: members', ?_, ⟨hwell, hwells⟩,
      by rw [outlineMembers, outlineMembers, hout, houts]⟩
    simp [spelledMembers, membersToJson?, hread, hreads]

end

/-- A value is read back from its text up to its binary numbers. -/
theorem exists_ofText?_text {j : Json} (h : j.WellFormed) (hdepth : j.depth ≤ depthLimit) :
    ∃ j', ofText? (text j) = some j' ∧ j'.WellFormed ∧ j'.outline = j.outline := by
  rw [ofText?, ofText?_text, Option.bind_some]
  exact exists_toJson? j h hdepth

end Tenancy.Json
