import Tenancy.Proofs.Toml.Bare
import Tenancy.Proofs.Toml.Quotation
import Tenancy.Toml.Reader

/-!
# Reading the tables that were written

A text of tables is read line by line as those tables: `ofText?_write?`. Each line that was written
changes the document in one known way, so a text is read by putting lines together: `Reads`.
-/

namespace Tenancy.Toml

open Quotation (isSpace)

/-! ### What is written -/

/-- Whether a value can be written. -/
def Scalar.InRange : Scalar → Prop
  | .string _ => True
  | .natural n => (n : Int) ≤ greatestInteger

instance : DecidablePred Scalar.InRange
  | .string _ => .isTrue trivial
  | .natural n => inferInstanceAs (Decidable ((n : Int) ≤ greatestInteger))

/-- The text of a value in range. -/
def Scalar.text : Scalar → List Char
  | .string s => writeString s
  | .natural n => Text.decimal n

/-- The line of a pair. -/
def pairText (pair : String × Scalar) : List Char :=
  pair.1.toList ++ [' ', '=', ' '] ++ pair.2.text ++ ['\n']

/-- The line of a header. -/
def headerText (name : String) : List Char :=
  '[' :: name.toList ++ [']', '\n']

namespace Section

/-- The text of a table. -/
def text (s : Section) : List Char :=
  headerText s.name ++ (s.pairs.map pairText).flatten

/-- Whether all values of a table can be written. -/
def InRange (s : Section) : Prop :=
  ∀ pair ∈ s.pairs, pair.2.InRange

instance : DecidablePred InRange := fun s =>
  inferInstanceAs (Decidable (∀ pair ∈ s.pairs, pair.2.InRange))

end Section

/-- The text of tables. -/
def sectionsText (sections : List Section) : List Char :=
  ((sections.map Section.text).intersperse ['\n']).flatten

lemma Scalar.write?_eq (v : Scalar) : v.write? = if v.InRange then some v.text else none := by
  cases v with
  | string s => rfl
  | natural n => rfl

/-- A list is written as a whole if each of its items is. -/
lemma mapM_eq_ite {α β : Type} {p : α → Prop} [DecidablePred p] {f : α → Option β} {g : α → β}
    (h : ∀ a, f a = if p a then some (g a) else none) (items : List α) :
    items.mapM f = if ∀ a ∈ items, p a then some (items.map g) else none := by
  induction items with
  | nil => simp
  | cons a items ih =>
    rw [List.mapM_cons, ih, h]
    simp only [List.forall_mem_cons]
    by_cases ha : p a
    · rw [if_pos ha]
      by_cases hitems : ∀ b ∈ items, p b
      · rw [if_pos hitems, if_pos ⟨ha, hitems⟩]
        rfl
      · rw [if_neg hitems, if_neg fun h => hitems h.2]
        rfl
    · rw [if_neg ha, if_neg (not_and_of_not_left _ ha)]
      rfl

lemma writePair?_eq (pair : String × Scalar) :
    writePair? pair = if pair.2.InRange then some (pairText pair) else none := by
  rw [writePair?, Scalar.write?_eq]
  split_ifs <;> rfl

lemma Section.write?_eq (s : Section) :
    s.write? = if s.InRange then some s.text else none := by
  rw [Section.write?, mapM_eq_ite writePair?_eq]
  by_cases h : ∀ pair ∈ s.pairs, pair.2.InRange
  · rw [if_pos h, if_pos (show s.InRange from h)]
    rfl
  · rw [if_neg h, if_neg (show ¬ s.InRange from h)]
    rfl

/-- Tables are written unless a number is out of range. -/
theorem write?_eq (sections : List Section) :
    write? sections = if ∀ s ∈ sections, s.InRange then
      some (String.ofList (sectionsText sections)) else none := by
  rw [write?, mapM_eq_ite Section.write?_eq]
  split_ifs <;> rfl

/-! ### Values -/

/-- What a value is read as. -/
def Scalar.toToml : Scalar → Toml
  | .string s => .string s
  | .natural n => .integer n

lemma writeString_eq_cons (s : String) :
    ∃ c cs, writeString s = c :: cs ∧ (c = '"' ∨ c = '\'') := by
  rw [writeString]
  cases (Contents.ofList s.toList).style with
  | basic => exact ⟨_, _, rfl, .inl rfl⟩
  | literal => exact ⟨_, _, rfl, .inr rfl⟩
  | basicLines => exact ⟨_, _, rfl, .inl rfl⟩
  | literalLines => exact ⟨_, _, rfl, .inr rfl⟩

/-- A value is read from its text up to the end of its line. -/
lemma value?_text {v : Scalar} (h : v.InRange) (fuel depth : ℕ) (rest : List Char) :
    value? (fuel + 1) depth (v.text ++ '\n' :: rest) = some (v.toToml, '\n' :: rest) := by
  cases v with
  | string s =>
    have hread : Quotation.read? (writeString s ++ '\n' :: rest) = some (s.toList, '\n' :: rest) :=
      Quotation.read?_writeString s (by simp) (by simp)
    obtain ⟨c, cs, hcs, hc⟩ := writeString_eq_cons s
    rw [Scalar.text]
    rw [hcs, List.cons_append] at hread ⊢
    rcases hc with rfl | rfl
    · rw [value?, hread]
      simp [Scalar.toToml]
    · rw [value?, hread]
      simp [Scalar.toToml]
  | natural n =>
    obtain ⟨c, cs, hcs, hc⟩ := (Text.isRun_decimal n).eq_cons
    have hfirst : ∀ d : Char, d.isDigit = false → ∀ more,
        Scalar.text (.natural n) ++ '\n' :: rest ≠ d :: more := by
      intro d hd more heq
      rw [Scalar.text, hcs] at heq
      rw [(List.cons.inj heq).1, hd] at hc
      cases hc
    rw [value?.eq_9 _ _ _ (hfirst '"' rfl) (hfirst '\'' rfl) (hfirst '[' rfl) (hfirst '\x7b' rfl)]
    exact Bare.read?_decimal h fun c hc => by
      cases hc
      rfl

/-- No value starts with white space. -/
lemma skipSpace_text (v : Scalar) (rest : List Char) :
    skipSpace (v.text ++ rest) = v.text ++ rest := by
  cases v with
  | string s =>
    obtain ⟨c, cs, hcs, hc⟩ := writeString_eq_cons s
    have hspace : isSpace c = false := by rcases hc with rfl | rfl <;> rfl
    simp [Scalar.text, skipSpace, hcs, hspace]
  | natural n =>
    obtain ⟨c, cs, hcs, hc⟩ := (Text.isRun_decimal n).eq_cons
    have hspace : isSpace c = false := by
      refine Bool.eq_false_iff.2 fun hspace => ?_
      simp only [isSpace, Bool.or_eq_true, decide_eq_true_eq] at hspace
      rcases hspace with rfl | rfl <;> cases hc
    simp [Scalar.text, skipSpace, hcs, hspace]

/-! ### Keys -/

/-- A key of one part that needs no quotes. -/
structure IsBareKey (key : String) : Prop where
  ne_nil : key.toList ≠ []
  isKeyChar : ∀ c ∈ key.toList, isKeyChar c = true

instance (key : String) : Decidable (IsBareKey key) :=
  decidable_of_iff (key.toList ≠ [] ∧ key.toList.all Toml.isKeyChar = true)
    ⟨fun h => ⟨h.1, List.all_eq_true.1 h.2⟩, fun h => ⟨h.ne_nil, List.all_eq_true.2 h.isKeyChar⟩⟩

lemma ne_of_isKeyChar {c d : Char} (hc : isKeyChar c = true) (hd : isKeyChar d = false) :
    c ≠ d := by
  rintro rfl
  rw [hc] at hd
  cases hd

lemma IsBareKey.eq_cons {key : String} (h : IsBareKey key) :
    ∃ c cs, key.toList = c :: cs ∧ Toml.isKeyChar c = true := by
  obtain ⟨c, cs, hcs⟩ := List.exists_cons_of_ne_nil h.ne_nil
  exact ⟨c, cs, hcs, h.isKeyChar c (by simp [hcs])⟩

/-- A line that starts with a bare key starts with no white space. -/
lemma skipSpace_bareKey {key : String} (h : IsBareKey key) (rest : List Char) :
    skipSpace (key.toList ++ rest) = key.toList ++ rest := by
  obtain ⟨c, cs, hcs, hc⟩ := h.eq_cons
  have hspace : isSpace c = false := by
    simp [isSpace, ne_of_isKeyChar hc (d := ' ') rfl, ne_of_isKeyChar hc (d := '\t') rfl]
  simp [skipSpace, hcs, hspace]

lemma simpleKey?_bareKey {key : String} (h : IsBareKey key) {rest : List Char}
    (hrest : ∀ c, rest.head? = some c → isKeyChar c = false) :
    simpleKey? (key.toList ++ rest) = some (key, rest) := by
  have htake := takeWhile_append_of_head h.isKeyChar hrest
  have hdrop := dropWhile_append_of_head h.isKeyChar hrest
  obtain ⟨c, cs, hcs, hc⟩ := h.eq_cons
  rw [simpleKey?.eq_3, htake, hdrop]
  · rw [hcs]
    simp [← hcs]
  · intro more hmore
    rw [hcs] at hmore
    exact ne_of_isKeyChar hc rfl (List.cons.inj hmore).1
  · intro more hmore
    rw [hcs] at hmore
    exact ne_of_isKeyChar hc rfl (List.cons.inj hmore).1

/-- A bare key is read up to the white space after it, if no point follows. -/
lemma key?_bareKey {key : String} (h : IsBareKey key) (fuel : ℕ) {rest : List Char}
    (hrest : ∀ c, rest.head? = some c → isKeyChar c = false)
    (hpoint : (skipSpace rest).head? ≠ some '.') :
    key? (fuel + 1) (key.toList ++ rest) = some ([key], skipSpace rest) := by
  rw [key?, skipSpace_bareKey h, simpleKey?_bareKey h hrest]
  simp only [Option.bind_eq_bind, Option.bind_some]
  split
  · rename_i heq
    exact absurd (by rw [heq]; rfl) hpoint
  · rfl

/-! ### Tables under construction -/

namespace Table

variable {origin : Origin} {entries : List (String × Entry)} {key : String}

lemma lookup_eq_none (h : key ∉ entries.map Prod.fst) : entries.lookup key = none := by
  rw [List.lookup_eq_none_iff]
  intro entry hentry
  exact bne_iff_ne.2 fun heq => h (heq ▸ List.mem_map_of_mem hentry)

lemma filter_ne_key (h : key ∉ entries.map Prod.fst) : entries.filter (·.1 ≠ key) = entries := by
  rw [List.filter_eq_self]
  intro entry hentry
  exact decide_eq_true fun heq => h (heq ▸ List.mem_map_of_mem hentry)

/-- A new entry goes to the end. -/
lemma put_new (h : key ∉ entries.map Prod.fst) (entry : Entry) :
    (mk origin entries).put key entry = mk origin (entries ++ [(key, entry)]) := by
  rw [put, Table.entries, filter_ne_key h, Table.origin]

/-- The last entry stays the last one when it is changed. -/
lemma put_last (h : key ∉ entries.map Prod.fst) (old entry : Entry) :
    (mk origin (entries ++ [(key, old)])).put key entry =
      mk origin (entries ++ [(key, entry)]) := by
  rw [put, Table.entries, List.filter_append, filter_ne_key h, Table.origin]
  simp

lemma lookup_last (h : key ∉ entries.map Prod.fst) (entry : Entry) :
    (entries ++ [(key, entry)]).lookup key = some entry := by
  rw [List.lookup_append, lookup_eq_none h]
  simp

/-- A header of one part opens a new table at the end. -/
lemma openTable_new (h : key ∉ entries.map Prod.fst) :
    openTable [] key (mk origin entries) =
      some (mk origin (entries ++ [(key, .table (mk .header []))])) := by
  simp only [openTable, descend, Table.entries, lookup_eq_none h, put_new h]

/-- A plain key gets its value in a table with a header. -/
lemma assign_new (h : key ∉ entries.map Prod.fst) (value : Toml) :
    assign [] key value (mk .header entries) =
      some (mk .header (entries ++ [(key, .value value)])) := by
  simp [assign, descend, Table.origin, Table.entries, lookup_eq_none h, put_new h]

/-- A path of one part leads to the last table. -/
lemma descend_last (h : key ∉ entries.map Prod.fst) (f : Table → Option Table) (inner : Table) :
    descend .passage f [key] (mk origin (entries ++ [(key, .table inner)])) =
      (f inner).map fun new => mk origin (entries ++ [(key, .table new)]) := by
  rw [descend, Table.entries, lookup_last h]
  simp only [descend, put_last h]
  rw [if_neg (by simp)]

end Table

namespace Section

/-- What a table is read as. -/
def toToml (s : Section) : Toml :=
  .table (s.pairs.map fun pair => (pair.1, pair.2.toToml))

/-- The table under construction after its header and its pairs. -/
def table (s : Section) : Table :=
  .mk .header (s.pairs.map fun pair => (pair.1, .value pair.2.toToml))

lemma toToml_table (s : Section) : s.table.toToml = s.toToml := by
  have hpairs : ∀ pairs : List (String × Scalar),
      Table.entriesToToml (pairs.map fun pair => (pair.1, .value pair.2.toToml)) =
        pairs.map fun pair => (pair.1, pair.2.toToml) := by
    intro pairs
    induction pairs with
    | nil => rfl
    | cons pair pairs ih =>
      rw [List.map_cons, Table.entriesToToml, ih, List.map_cons]
  rw [table, Table.toToml, hpairs, toToml]

end Section

namespace Document

/-- The entries of the whole table after the lines of some tables. -/
def sectionEntries (sections : List Section) : List (String × Entry) :=
  sections.map fun s => (s.name, .table s.table)

/-- The document after the lines of some tables, of which the last one is open. -/
def ofSections (sections : List Section) : Document where
  root := .mk .header (sectionEntries sections)
  path := (sections.getLast?.map Section.name).toList

lemma ofSections_append (sections : List Section) (s : Section) :
    ofSections (sections ++ [s]) =
      ⟨.mk .header (sectionEntries sections ++ [(s.name, .table s.table)]), [s.name]⟩ := by
  simp [ofSections, sectionEntries]

lemma toToml_ofSections (sections : List Section) :
    (ofSections sections).root.toToml = .table (sections.map fun s => (s.name, s.toToml)) := by
  have hentries : Table.entriesToToml (sectionEntries sections) =
      sections.map fun s => (s.name, s.toToml) := by
    induction sections with
    | nil => rfl
    | cons s sections ih =>
      rw [sectionEntries, List.map_cons, Table.entriesToToml, Section.toToml_table,
        ← sectionEntries, ih, List.map_cons]
  rw [ofSections, Table.toToml, hentries]

/-! ### Lines -/

/-- A text that takes one document to another, line by line, whatever follows it. -/
def Reads (d : Document) (text : List Char) (d' : Document) : Prop :=
  ∀ (rest : List Char) (fuel : ℕ), (text ++ rest).length < fuel →
    ∃ fuel', rest.length < fuel' ∧ lines? fuel d (text ++ rest) = lines? fuel' d' rest

lemma Reads.nil (d : Document) : Reads d [] d :=
  fun _ fuel hfuel => ⟨fuel, hfuel, rfl⟩

lemma Reads.append {d d' d'' : Document} {text text' : List Char} (h : Reads d text d')
    (h' : Reads d' text' d'') : Reads d (text ++ text') d'' := by
  intro rest fuel hfuel
  rw [List.append_assoc] at hfuel ⊢
  obtain ⟨fuel', hfuel', hread⟩ := h (text' ++ rest) fuel hfuel
  obtain ⟨fuel'', hfuel'', hread'⟩ := h' rest fuel' hfuel'
  exact ⟨fuel'', hfuel'', hread.trans hread'⟩

/-- One line takes one unit of fuel. -/
lemma Reads.line {d d' : Document} {text : List Char} (hne : text ≠ [])
    (h : ∀ (rest : List Char) (fuel : ℕ),
      lines? (fuel + 1) d (text ++ rest) = lines? fuel d' rest) : Reads d text d' := by
  intro rest fuel hfuel
  have hlength : 0 < text.length := List.length_pos_iff.2 hne
  rw [List.length_append] at hfuel
  obtain ⟨fuel, rfl⟩ : ∃ n, fuel = n + 1 := ⟨fuel - 1, by omega⟩
  exact ⟨fuel, by omega, h rest fuel⟩

/-- A text that has been read as a whole. -/
lemma Reads.lines? {d d' : Document} {text : List Char} (h : Reads d text d') :
    lines? (text.length + 1) d text = some d' := by
  obtain ⟨fuel, hfuel, hread⟩ := h [] (text.length + 1) (by simp)
  obtain ⟨fuel, rfl⟩ : ∃ n, fuel = n + 1 := ⟨fuel - 1, by omega⟩
  rw [List.append_nil] at hread
  rw [hread]
  rfl

lemma reads_blank (d : Document) : Reads d ['\n'] d :=
  .line (by simp) fun _ _ => rfl

/-- A line with one bracket is a header. -/
lemma lines?_header {c : Char} (hc : isKeyChar c = true) (fuel : ℕ) (d : Document)
    (cs : List Char) :
    lines? (fuel + 1) d ('[' :: c :: cs) =
      (d.header? (c :: cs)).bind fun found => lines? fuel found.1 found.2 := by
  rw [lines?, show skipSpace ('[' :: c :: cs) = '[' :: c :: cs from rfl]
  split
  case h_3 heq =>
    rw [← (List.cons.inj heq).2]
    rfl
  case h_2 heq => exact absurd (List.cons.inj (List.cons.inj heq).2).1 (ne_of_isKeyChar hc rfl)
  case h_7 hheader _ _ _ => exact absurd rfl (hheader (c :: cs))
  all_goals
    rename_i heq
    cases heq

/-- A line that starts with a bare key is an assignment. -/
lemma lines?_assignment {key : String} (h : IsBareKey key) (fuel : ℕ) (d : Document)
    (rest : List Char) :
    lines? (fuel + 1) d (key.toList ++ rest) =
      (d.assignment? (key.toList ++ rest)).bind fun found => lines? fuel found.1 found.2 := by
  rw [lines?, skipSpace_bareKey h]
  obtain ⟨c, cs, hcs, hc⟩ := h.eq_cons
  rw [hcs, List.cons_append]
  split
  case h_1 heq => cases heq
  case h_7 => rfl
  all_goals
    rename_i heq
    obtain rfl := (List.cons.inj heq).1
    cases hc

variable {sections : List Section} {name : String}

lemma notMem_sectionEntries (h : name ∉ sections.map Section.name) :
    name ∉ (sectionEntries sections).map Prod.fst := by
  simpa [sectionEntries, List.map_map] using h

/-- The header of a new table opens it at the end. -/
lemma header?_name (hname : IsBareKey name) (hnew : name ∉ sections.map Section.name)
    (rest : List Char) :
    (ofSections sections).header? (name.toList ++ ']' :: '\n' :: rest) =
      some (ofSections (sections ++ [⟨name, []⟩]), rest) := by
  have hpart : key? (depthLimit - 1) (name.toList ++ ']' :: '\n' :: rest) =
      some ([name], ']' :: '\n' :: rest) :=
    key?_bareKey hname _ (fun c hc => by cases hc; rfl) (by simp [skipSpace, isSpace])
  have hroot : (ofSections sections).root.openTable [] name =
      some (ofSections (sections ++ [⟨name, []⟩])).root := by
    rw [ofSections_append]
    exact Table.openTable_new (notMem_sectionEntries hnew)
  simp [header?, hpart, show lineEnd? ('\n' :: rest) = some rest from rfl, splitKey?, hroot,
    ofSections_append]

lemma reads_header (hname : IsBareKey name) (hnew : name ∉ sections.map Section.name) :
    Reads (ofSections sections) (headerText name) (ofSections (sections ++ [⟨name, []⟩])) := by
  refine .line (by simp [headerText]) fun rest fuel => ?_
  have hheader := header?_name hname hnew rest
  have htext : headerText name ++ rest = '[' :: (name.toList ++ ']' :: '\n' :: rest) := by
    simp [headerText]
  obtain ⟨c, cs, hcs, hc⟩ := hname.eq_cons
  rw [hcs] at hheader htext
  rw [htext, List.cons_append, lines?_header hc, ← List.cons_append, hheader]
  rfl

/-- The line of a new pair puts it at the end of the open table. -/
lemma assignment?_pair {pairs : List (String × Scalar)} {pair : String × Scalar}
    (hname : name ∉ sections.map Section.name) (hkey : IsBareKey pair.1)
    (hnew : pair.1 ∉ pairs.map Prod.fst) (hvalue : pair.2.InRange) (rest : List Char) :
    (ofSections (sections ++ [⟨name, pairs⟩])).assignment?
        (pair.1.toList ++ ' ' :: '=' :: ' ' :: (pair.2.text ++ '\n' :: rest)) =
      some (ofSections (sections ++ [⟨name, pairs ++ [pair]⟩]), rest) := by
  have hpart : key? (depthLimit - 1)
      (pair.1.toList ++ ' ' :: '=' :: ' ' :: (pair.2.text ++ '\n' :: rest)) =
      some ([pair.1], '=' :: ' ' :: (pair.2.text ++ '\n' :: rest)) :=
    key?_bareKey hkey _ (fun c hc => by cases hc; rfl) (by simp [skipSpace, isSpace])
  have hspace : skipSpace (' ' :: (pair.2.text ++ '\n' :: rest)) = pair.2.text ++ '\n' :: rest :=
    skipSpace_text pair.2 _
  have hpath : (ofSections (sections ++ [⟨name, pairs⟩])).path = [name] := by
    rw [ofSections_append]
  have hroot : Table.descend .passage (Table.assign [] pair.1 pair.2.toToml) [name]
      (ofSections (sections ++ [⟨name, pairs⟩])).root =
      some (ofSections (sections ++ [⟨name, pairs ++ [pair]⟩])).root := by
    rw [ofSections_append, Table.descend_last (notMem_sectionEntries hname)]
    rw [Section.table, Table.assign_new (by simpa [List.map_map] using hnew)]
    simp [ofSections_append, Section.table]
  simp only [assignment?, hpart, Option.bind_eq_bind, Option.bind_some, splitKey?,
    List.getLast?_singleton, Option.map_some, List.dropLast_singleton, hspace,
    value?_text hvalue, show lineEnd? ('\n' :: rest) = some rest from rfl, hpath, hroot]
  rw [ofSections_append]
  rfl

lemma reads_pair {pairs : List (String × Scalar)} {pair : String × Scalar}
    (hname : name ∉ sections.map Section.name) (hkey : IsBareKey pair.1)
    (hnew : pair.1 ∉ pairs.map Prod.fst) (hvalue : pair.2.InRange) :
    Reads (ofSections (sections ++ [⟨name, pairs⟩])) (pairText pair)
      (ofSections (sections ++ [⟨name, pairs ++ [pair]⟩])) := by
  refine .line (by simp [pairText]) fun rest fuel => ?_
  have htext : pairText pair ++ rest =
      pair.1.toList ++ ' ' :: '=' :: ' ' :: (pair.2.text ++ '\n' :: rest) := by
    simp [pairText]
  rw [htext, lines?_assignment hkey, assignment?_pair hname hkey hnew hvalue]
  rfl

/-- What comes later under a key of its own does not come earlier. -/
lemma notMem_map_of_nodup {α β : Type} {f : α → β} {earlier later : List α} {a : α}
    (h : ((earlier ++ a :: later).map f).Nodup) : f a ∉ earlier.map f := by
  rw [List.map_append, List.nodup_append] at h
  exact fun hmem => h.2.2 _ hmem _ List.mem_cons_self rfl

/-- By induction on the pairs that are still to come, where `earlier` have been read. -/
lemma reads_pairs {earlier pairs : List (String × Scalar)}
    (hname : name ∉ sections.map Section.name) (hkeys : ∀ pair ∈ pairs, IsBareKey pair.1)
    (hnodup : ((earlier ++ pairs).map Prod.fst).Nodup)
    (hvalues : ∀ pair ∈ pairs, pair.2.InRange) :
    Reads (ofSections (sections ++ [⟨name, earlier⟩])) (pairs.map pairText).flatten
      (ofSections (sections ++ [⟨name, earlier ++ pairs⟩])) := by
  induction pairs generalizing earlier with
  | nil =>
    rw [List.append_nil]
    exact .nil _
  | cons pair pairs ih =>
    have hnew : pair.1 ∉ earlier.map Prod.fst := notMem_map_of_nodup hnodup
    rw [List.append_cons earlier] at hnodup ⊢
    rw [List.map_cons, List.flatten_cons]
    exact (reads_pair hname (hkeys _ List.mem_cons_self) hnew (hvalues _ List.mem_cons_self)).append
      (ih (fun p hp => hkeys p (List.mem_cons_of_mem _ hp)) hnodup
        fun p hp => hvalues p (List.mem_cons_of_mem _ hp))

end Document

/-- A table whose name and keys are bare ones, where no key comes twice. -/
structure Section.WellFormed (s : Section) : Prop where
  name : IsBareKey s.name
  keys : ∀ pair ∈ s.pairs, IsBareKey pair.1
  nodup : (s.pairs.map Prod.fst).Nodup

namespace Document

lemma reads_section {sections : List Section} {s : Section}
    (hnew : s.name ∉ sections.map Section.name) (hs : s.WellFormed) (hrange : s.InRange) :
    Reads (ofSections sections) s.text (ofSections (sections ++ [s])) :=
  (reads_header hs.name hnew).append (reads_pairs hnew hs.keys hs.nodup hrange)

/-- By induction on the tables that are still to come, where `earlier` have been read. -/
lemma reads_sections {earlier sections : List Section}
    (hnodup : ((earlier ++ sections).map Section.name).Nodup)
    (hwell : ∀ s ∈ sections, s.WellFormed) (hrange : ∀ s ∈ sections, s.InRange) :
    Reads (ofSections earlier) (sectionsText sections) (ofSections (earlier ++ sections)) := by
  induction sections generalizing earlier with
  | nil =>
    rw [List.append_nil]
    exact .nil _
  | cons s sections ih =>
    have hnew : s.name ∉ earlier.map Section.name := notMem_map_of_nodup hnodup
    have hread := reads_section hnew (hwell s List.mem_cons_self) (hrange s List.mem_cons_self)
    rw [List.append_cons] at hnodup ⊢
    have hmore := ih hnodup (fun t ht => hwell t (List.mem_cons_of_mem _ ht))
      fun t ht => hrange t (List.mem_cons_of_mem _ ht)
    cases sections with
    | nil => simpa [sectionsText] using hread
    | cons t sections =>
      have htext : sectionsText (s :: t :: sections) =
          s.text ++ (['\n'] ++ sectionsText (t :: sections)) := by
        simp [sectionsText]
      rw [htext]
      exact hread.append ((reads_blank _).append hmore)

end Document

/-- No text of tables starts with a byte order mark. -/
lemma skipMark_sectionsText (sections : List Section) :
    skipMark (sectionsText sections) = sectionsText sections := by
  cases sections with
  | nil => rfl
  | cons s sections => cases sections <;> rfl

/-- A text of tables is read as those tables, in the order in which they were written. -/
theorem ofText?_write? {sections : List Section} (hwell : ∀ s ∈ sections, s.WellFormed)
    (hnodup : (sections.map Section.name).Nodup) {text : String}
    (h : write? sections = some text) :
    ofText? text = some (.table (sections.map fun s => (s.name, s.toToml))) := by
  rw [write?_eq] at h
  obtain ⟨hrange, htext⟩ := Option.ite_none_right_eq_some.1 h
  have hreads : (Document.ofSections []).Reads (sectionsText sections)
      (Document.ofSections ([] ++ sections)) := Document.reads_sections hnodup hwell hrange
  rw [← Option.some.inj htext, ofText?]
  simp only [String.toList_ofList, skipMark_sectionsText]
  rw [show Document.empty = Document.ofSections [] from rfl, hreads.lines?, Option.map_some,
    List.nil_append, Document.toToml_ofSections]

end Tenancy.Toml
