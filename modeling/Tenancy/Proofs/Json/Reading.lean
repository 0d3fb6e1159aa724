import Tenancy.Proofs.Json.Numeral

/-!
# Reading what was written

The text of a value is read as what the value spells: `ofText?_text`. Nothing is asked of the value
here, as the grammar has no bound on depth or on numbers.
-/

namespace Tenancy.Json

open Syntax
open Text (IsRun)

/-! ### What a value spells -/

mutual

/-- What stands in the text of a value. -/
def spelled : Json → Syntax
  | .null => .null
  | .bool b => .bool b
  | .number (.integer n) => .number (.ofInt n)
  | .number (.float x) => .number (.ofDecimal numberLayout x.negative x.shortest)
  | .string s => .string (some s)
  | .array items => .array (spelledItems items)
  | .object members => .object (spelledMembers members)

/-- What stands in the texts of the items of an array. -/
def spelledItems : List Json → List Syntax
  | [] => []
  | item :: items => spelled item :: spelledItems items

/-- What stands in the texts of the members of an object. -/
def spelledMembers : List (String × Json) → List (Option String × Syntax)
  | [] => []
  | (key, value) :: members => (some key, spelled value) :: spelledMembers members

end

/-! ### Strings -/

/-- A letter after a backslash is read as the character that it stands for. -/
lemma pieces?_short {letter c : Char} (h : shortEscape? letter = some c) (rest : List Char) :
    pieces? ('\\' :: letter :: rest) =
      (pieces? rest).map fun found => (.char c :: found.1, found.2) := by
  have hu : letter ≠ 'u' := by
    rintro rfl
    cases h
  rw [pieces?.eq_4 _ _ fun _ _ _ _ _ hletter => absurd hletter hu, h]
  cases pieces? rest <;> rfl

lemma pieces?_plain {c : Char} (hquote : c ≠ '"') (hslash : c ≠ '\\')
    (hcontrol : ¬ c.toNat < 0x20) (rest : List Char) :
    pieces? (c :: rest) = (pieces? rest).map fun found => (.char c :: found.1, found.2) := by
  rw [pieces?.eq_5 _ _ hquote (fun _ _ _ _ _ h => absurd h hslash) fun _ _ h => absurd h hslash,
    if_neg (by simp [hcontrol, hslash])]
  cases pieces? rest <;> rfl

lemma hexWord?_digitChar : ∀ n < 32,
    hexWord? ['0', '0', Nat.digitChar (n / 16), Nat.digitChar (n % 16)] = some (n, []) := by
  decide

lemma pieces?_control {c : Char} (h : c.toNat < 0x20) (rest : List Char) :
    pieces? ('\\' :: 'u' :: '0' :: '0' :: Nat.digitChar (c.toNat / 16)
        :: Nat.digitChar (c.toNat % 16) :: rest) =
      (pieces? rest).map fun found => (.char c :: found.1, found.2) := by
  have hunit : Piece.ofUnit c.toNat = .char c := by
    rw [Piece.ofUnit, if_neg (by omega), Char.ofNat_toNat]
  cases hrest : pieces? rest <;> simp [pieces?, hexWord?_digitChar _ h, hunit, hrest]

lemma pieces?_escapedChar (c : Char) (rest : List Char) :
    pieces? (escapedChar c ++ rest) =
      (pieces? rest).map fun found => (.char c :: found.1, found.2) := by
  unfold escapedChar
  split_ifs with hquote hslash hback hfeed hline hreturn htab hcontrol
  · subst hquote
    exact pieces?_short rfl rest
  · subst hslash
    exact pieces?_short rfl rest
  · subst hback
    exact pieces?_short rfl rest
  · subst hfeed
    exact pieces?_short rfl rest
  · subst hline
    exact pieces?_short rfl rest
  · subst hreturn
    exact pieces?_short rfl rest
  · subst htab
    exact pieces?_short rfl rest
  · exact pieces?_control hcontrol rest
  · exact pieces?_plain hquote hslash hcontrol rest

lemma pieces?_flatMap (cs rest : List Char) :
    pieces? (cs.flatMap escapedChar ++ '"' :: rest) = some (cs.map .char, rest) := by
  induction cs with
  | nil => rw [List.flatMap_nil, List.nil_append, pieces?, List.map_nil]
  | cons c cs ih => rw [List.flatMap_cons, List.append_assoc, pieces?_escapedChar, ih]; rfl

lemma join?_map_char (cs : List Char) : join? (cs.map .char) = some cs := by
  induction cs with
  | nil => rfl
  | cons c cs ih => rw [List.map_cons, join?, ih, Option.map_some]

lemma writeString_append (s : String) (rest : List Char) :
    writeString s ++ rest = '"' :: (s.toList.flatMap escapedChar ++ '"' :: rest) := by
  simp [writeString]

/-- A string is read from after its first quotation mark. -/
lemma string?_write (s : String) (rest : List Char) :
    string? (s.toList.flatMap escapedChar ++ '"' :: rest) = some (some s, rest) := by
  rw [string?, pieces?_flatMap]
  simp [join?_map_char]

/-! ### Numbers -/

/-- A numeral without its sign starts with a digit. -/
lemma unsignedText_eq_cons {n : Numeral} (h : n.WellFormed) :
    ∃ c cs, n.unsignedText = c :: cs ∧ c.isDigit = true := by
  have hrun : IsRun n.whole := by
    rcases h.whole with hzero | hwhole
    · rw [hzero]
      exact isRun_zero
    · exact hwhole.1
  obtain ⟨c, cs, hcs, hc⟩ := hrun.eq_cons
  exact ⟨c, _, by rw [Numeral.unsignedText, hcs, List.cons_append, List.cons_append], hc⟩

lemma isSpace_of_isDigit {c : Char} (h : c.isDigit = true) : isSpace c = false := by
  have hne : ∀ d : Char, d.isDigit = false → c ≠ d := by
    rintro d hd rfl
    rw [h] at hd
    cases hd
  simp [isSpace, hne]

lemma value?_of_isDigit {c : Char} (h : c.isDigit = true) (fuel : ℕ) (cs : List Char) :
    value? (fuel + 1) (c :: cs) =
      (unsigned? false (c :: cs)).map fun found => (.number found.1, found.2) := by
  have hspace : skipSpace (c :: cs) = c :: cs := by
    simp [skipSpace, isSpace_of_isDigit h]
  rw [value?, hspace]
  split
  case h_8 => rfl
  all_goals
    rename_i heq
    cases (List.cons.inj heq).1
    cases h

/-- A number is read from its text. -/
lemma value?_text {n : Numeral} (h : n.WellFormed) (fuel : ℕ) {rest : List Char}
    (hrest : Stops rest) :
    value? (fuel + 1) (n.text ++ rest) = some (.number n, rest) := by
  have hread := unsigned?_append h hrest
  cases hsign : n.negative with
  | true =>
    rw [hsign] at hread
    simp [Numeral.text, hsign, value?, skipSpace, isSpace, hread]
  | false =>
    rw [hsign] at hread
    obtain ⟨c, cs, hcs, hc⟩ := unsignedText_eq_cons h
    rw [Numeral.text, hsign, if_neg Bool.false_ne_true, List.nil_append]
    rw [hcs, List.cons_append] at hread ⊢
    rw [value?_of_isDigit hc, hread, Option.map_some]

/-! ### Values -/

/-- The first character of a value that is written is no white space and ends no array. -/
lemma write_eq_cons (j : Json) :
    ∃ c cs, write j = c :: cs ∧ isSpace c = false ∧ c ≠ ']' := by
  have hnumber : ∀ n : Numeral, n.WellFormed →
      ∃ c cs, n.text = c :: cs ∧ isSpace c = false ∧ c ≠ ']' := by
    intro n h
    cases hsign : n.negative with
    | true => exact ⟨'-', n.unsignedText, by simp [Numeral.text, hsign], by decide⟩
    | false =>
      obtain ⟨c, cs, hcs, hc⟩ := unsignedText_eq_cons h
      refine ⟨c, cs, by simp [Numeral.text, hsign, hcs], isSpace_of_isDigit hc, ?_⟩
      rintro rfl
      cases hc
  cases j with
  | null => exact ⟨'n', _, rfl, by decide⟩
  | bool b => cases b <;> exact ⟨_, _, rfl, by decide⟩
  | number n =>
    cases n with
    | integer n =>
      rw [write, writeNumber, signed_eq_text]
      exact hnumber _ (wellFormed_ofInt n)
    | float x =>
      rw [write, writeNumber, written_eq_text]
      exact hnumber _ (wellFormed_ofDecimal _ _ _)
  | string s => exact ⟨'"', _, rfl, by decide⟩
  | array items => cases items <;> exact ⟨'[', _, rfl, by decide⟩
  | object members =>
    cases members with
    | nil => exact ⟨'\x7b', _, rfl, by decide⟩
    | cons m members => exact ⟨'\x7b', _, rfl, by decide⟩

lemma skipSpace_write (j : Json) (rest : List Char) :
    skipSpace (write j ++ rest) = write j ++ rest := by
  obtain ⟨c, cs, hcs, hspace, -⟩ := write_eq_cons j
  simp [skipSpace, hcs, hspace]

lemma value?_array (item : Json) (rest : List Char) (fuel : ℕ) :
    value? (fuel + 1) ('[' :: (write item ++ rest)) =
      (items? fuel (write item ++ rest)).map fun found => (.array found.1, found.2) := by
  have hskip := skipSpace_write item rest
  have hopen : skipSpace ('[' :: (write item ++ rest)) = '[' :: (write item ++ rest) := by
    simp [skipSpace, isSpace]
  obtain ⟨c, cs, hcs, -, hend⟩ := write_eq_cons item
  rw [hcs, List.cons_append] at hskip hopen ⊢
  simp only [value?, hopen, hskip]
  split
  next h => exact absurd (List.cons.inj h).1 hend
  next => rfl

mutual

/-- A value is read from its text, and what follows it is left. -/
theorem value?_write : ∀ (fuel : ℕ) (j : Json) (rest : List Char), (write j).length ≤ fuel →
    Stops rest → value? fuel (write j ++ rest) = some (spelled j, rest)
  | 0, j, rest, hfuel, _ => by
    obtain ⟨c, cs, hcs, -⟩ := write_eq_cons j
    simp [hcs] at hfuel
  | fuel + 1, j, rest, hfuel, hrest => by
    cases j with
    | null => rfl
    | bool b => cases b <;> rfl
    | number n =>
      cases n with
      | integer n =>
        rw [write, writeNumber, signed_eq_text]
        exact value?_text (wellFormed_ofInt n) fuel hrest
      | float x =>
        rw [write, writeNumber, written_eq_text]
        exact value?_text (wellFormed_ofDecimal _ _ _) fuel hrest
    | string s =>
      have hread := string?_write s rest
      simp [write, writeString, value?, skipSpace, isSpace, hread, spelled]
    | array items =>
      cases items with
      | nil => rfl
      | cons item items =>
        simp only [write, List.length_cons, List.cons_append, List.length_append] at hfuel
        have hread := items?_write fuel item items rest (by omega)
        rw [List.append_assoc] at hread
        rw [write, List.cons_append, List.cons_append, List.append_assoc, value?_array, hread]
        rfl
    | object members =>
      cases members with
      | nil => rfl
      | cons m members =>
        obtain ⟨key, value⟩ := m
        simp only [write, List.length_cons, List.cons_append, List.length_append] at hfuel
        have hread := members?_write fuel key value members rest (by omega)
        rw [writeString_append] at hread
        rw [write, List.cons_append, List.cons_append, List.append_assoc, writeString_append]
        simp only [List.cons_append, List.append_assoc] at hread ⊢
        simp [value?, skipSpace, isSpace, hread, spelled]

/-- The items of an array are read from their texts. -/
theorem items?_write : ∀ (fuel : ℕ) (item : Json) (items : List Json) (rest : List Char),
    (write item).length + (writeItems items).length ≤ fuel →
    items? fuel (write item ++ writeItems items ++ rest) =
      some (spelledItems (item :: items), rest)
  | 0, item, items, rest, hfuel => by
    obtain ⟨c, cs, hcs, -⟩ := write_eq_cons item
    simp [hcs] at hfuel
  | fuel + 1, item, items, rest, hfuel => by
    cases items with
    | nil =>
      simp only [writeItems, List.length_cons, List.length_nil] at hfuel
      have hread := value?_write fuel item _ (by omega) (stops_cons (.inr (.inl rfl)) rest)
      rw [List.append_assoc, writeItems, List.singleton_append, items?, hread]
      rfl
    | cons next items =>
      simp only [writeItems, List.length_cons, List.cons_append, List.length_append] at hfuel
      have hread := value?_write fuel item _ (by omega)
        (stops_cons (.inl rfl) (write next ++ writeItems items ++ rest))
      have hrest := items?_write fuel next items rest (by omega)
      rw [List.append_assoc, writeItems, List.cons_append, List.cons_append, items?, hread]
      rw [List.append_assoc] at hrest
      simp [skipSpace, isSpace, hrest, spelledItems]

/-- The members of an object are read from their texts. -/
theorem members?_write : ∀ (fuel : ℕ) (key : String) (value : Json)
    (members : List (String × Json)) (rest : List Char),
    (write value).length + (writeMembers members).length ≤ fuel →
    members? fuel
        (writeString key ++ (':' :: write value ++ writeMembers members ++ rest)) =
      some (spelledMembers ((key, value) :: members), rest)
  | 0, key, value, members, rest, hfuel => by
    obtain ⟨c, cs, hcs, -⟩ := write_eq_cons value
    simp [hcs] at hfuel
  | fuel + 1, key, value, members, rest, hfuel => by
    rw [writeString_append]
    cases members with
    | nil =>
      simp only [writeMembers, List.length_cons, List.length_nil] at hfuel
      have hread := value?_write fuel value _ (by omega) (stops_cons (.inr (.inr rfl)) rest)
      simp [members?, skipSpace, isSpace, string?_write, writeMembers, hread, spelledMembers]
    | cons m members =>
      obtain ⟨next, nextValue⟩ := m
      simp only [writeMembers, List.length_cons, List.cons_append, List.length_append] at hfuel
      have hrest := members?_write fuel next nextValue members rest (by omega)
      have hread := value?_write fuel value _ (by omega) (stops_cons (.inl rfl)
        (writeString next ++ (':' :: write nextValue ++ writeMembers members ++ rest)))
      simp only [List.cons_append, List.append_assoc] at hread hrest
      simp [members?, skipSpace, isSpace, string?_write, writeMembers, hread, hrest,
        spelledMembers]

end

/-- The text of a value is read as what the value spells. -/
theorem ofText?_text (j : Json) : Syntax.ofText? (text j) = some (spelled j) := by
  have hread := value?_write ((write j).length + 1) j [] (Nat.le_succ _) stops_nil
  rw [List.append_nil] at hread
  rw [Syntax.ofText?, text, String.toList_ofList]
  simp [hread, skipSpace]

end Tenancy.Json
