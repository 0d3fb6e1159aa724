import Mathlib.Data.List.TakeWhile
import Tenancy.Proofs.Dsn.Password
import Tenancy.Proofs.Text.Decimal

/-!
# The database in a text

The database of a text stands between the first slash after the first end of a scheme and the next
question mark: `database?_eq_some_iff`. A search by bytes finds the same, and cuts the text nowhere
but between two characters (`searchBytes_eq`). In a connection string it is the encoded name of
the tenant's database, whatever else the string was built from: `database?_build_eq`.
-/

namespace Tenancy

namespace Text

/-! ### Slices -/

/-- The part of a text from a byte on; `none` if the byte is not in the text, or inside of a
character. -/
def sliceFrom? (s : String) (byte : ℕ) : Option String :=
  if h : String.Pos.Raw.IsValid s ⟨byte⟩ then some (s.sliceFrom (s.pos ⟨byte⟩ h)).copy else none

/-- The byte at which a marker first occurs. -/
def findByte? (marker : List Char) : List Char → Option ℕ
  | [] => if marker = [] then some 0 else none
  | c :: rest =>
    if marker.isPrefixOf (c :: rest) then some 0
    else (findByte? marker rest).map (c.utf8Size + ·)

lemma sliceFrom?_append (s t : String) : sliceFrom? (s ++ t) s.utf8ByteSize = some t := by
  have hvalid : String.Pos.Raw.IsValid (s ++ t) ⟨s.utf8ByteSize⟩ :=
    String.Pos.Raw.isValid_iff_exists_append.2 ⟨s, t, rfl, rfl⟩
  have hsplits : ((s ++ t).pos ⟨s.utf8ByteSize⟩ hvalid).Splits s t := ⟨rfl, rfl⟩
  rw [sliceFrom?, dif_pos hvalid, hsplits.copy_sliceFrom_eq]

lemma utf8ByteSize_ofList_cons (c : Char) (cs : List Char) :
    (String.ofList (c :: cs)).utf8ByteSize = c.utf8Size + (String.ofList cs).utf8ByteSize := by
  have hsplit : String.ofList (c :: cs) = String.singleton c ++ String.ofList cs := by
    rw [String.singleton_eq_ofList, ← String.ofList_append]
    rfl
  rw [hsplit, String.utf8ByteSize_append, String.utf8ByteSize_singleton]

variable {marker cs before after : List Char}

lemma IsFirst.findByte? (h : IsFirst marker cs before after) :
    Text.findByte? marker cs = some (String.ofList before).utf8ByteSize := by
  induction before generalizing cs with
  | nil =>
    obtain rfl : cs = marker ++ after := h.eq_append
    cases hcs : marker ++ after with
    | nil =>
      rw [Text.findByte?, if_pos (List.append_eq_nil_iff.1 hcs).1]
      rfl
    | cons c rest =>
      have hstarts : marker.isPrefixOf (c :: rest) = true :=
        List.isPrefixOf_iff_prefix.2 ⟨after, hcs⟩
      rw [Text.findByte?, if_pos hstarts]
      rfl
  | cons c before ih =>
    obtain rfl : cs = c :: (before ++ (marker ++ after)) := h.eq_append
    obtain ⟨hrest, hstarts⟩ := h.of_cons
    have hstarts : ¬ marker.isPrefixOf (c :: (before ++ (marker ++ after))) = true :=
      mt List.isPrefixOf_iff_prefix.1 hstarts
    rw [Text.findByte?, if_neg hstarts, ih hrest, Option.map_some, utf8ByteSize_ofList_cons]

lemma findByte?_eq_none_iff : findByte? marker cs = none ↔ ¬ marker <:+: cs := by
  induction cs with
  | nil => simp [findByte?]
  | cons c cs ih =>
    rw [findByte?, List.infix_cons_iff, ← List.isPrefixOf_iff_prefix]
    split_ifs with hstarts
    · simp [hstarts]
    · simp [hstarts, ih]

/-- The byte behind an occurrence of a marker is in the text, and not inside of a character. -/
lemma sliceFrom?_add {s : String} (marker : List Char)
    (h : s.toList = before ++ (marker ++ after)) :
    sliceFrom? s ((String.ofList before).utf8ByteSize + (String.ofList marker).utf8ByteSize) =
      some (String.ofList after) := by
  have hs : s = String.ofList (before ++ marker) ++ String.ofList after := by
    rw [← String.ofList_append, List.append_assoc, ← h, String.ofList_toList]
  have hbyte : (String.ofList before).utf8ByteSize + (String.ofList marker).utf8ByteSize =
      (String.ofList (before ++ marker)).utf8ByteSize := by
    rw [String.ofList_append, String.utf8ByteSize_append]
  rw [hbyte, hs, sliceFrom?_append]

end Text

namespace Dsn

open Text (IsFirst cutAt?_of_not_mem exists_isFirst_of_cutAfter? exists_of_cutAt?
  forall_of_cutAt?_eq_none not_mem_decimal)

/-! ### Searching by bytes -/

/-- As `database?`, with the places in the text counted in bytes; `none` if the text is cut where
there is no byte of it, or inside of a character. -/
def searchBytes (dsn : String) : Option (Option String) :=
  match Text.findByte? schemeEnd dsn.toList with
  | none => some none
  | some scheme => do
    let rest ← Text.sliceFrom? dsn (scheme + 3)
    match Text.findByte? ['/'] rest.toList with
    | none => return none
    | some slash =>
      let path ← Text.sliceFrom? rest (slash + 1)
      let name := path.toList.takeWhile (· ≠ '?')
      return if name = [] then none else some (String.ofList name)

/-- The text is cut only between two characters, and the same is found. -/
lemma searchBytes_eq (dsn : String) : searchBytes dsn = some (database? dsn) := by
  unfold searchBytes database?
  cases hscheme : Text.cutAfter? schemeEnd dsn.toList with
  | none =>
    rw [Text.findByte?_eq_none_iff.2 (Text.cutAfter?_eq_none_iff.1 hscheme)]
    rfl
  | some x =>
    obtain ⟨before, rest⟩ := x
    obtain ⟨scheme, rfl, hfirst⟩ := exists_isFirst_of_cutAfter? hscheme
    have hslice : Text.sliceFrom? dsn ((String.ofList scheme).utf8ByteSize + 3) =
        some (String.ofList rest) := Text.sliceFrom?_add schemeEnd hfirst.eq_append
    simp only [hfirst.findByte?, hslice, Option.bind_eq_bind, Option.bind_some,
      String.toList_ofList]
    cases hslash : Text.cutAt? (· = '/') rest with
    | none =>
      have hnot : ¬ ['/'] <:+: rest := by
        rw [List.singleton_infix_iff]
        intro hmem
        simpa using forall_of_cutAt?_eq_none hslash '/' hmem
      rw [Text.findByte?_eq_none_iff.2 hnot]
      rfl
    | some y =>
      obtain ⟨authority, path⟩ := y
      obtain ⟨rfl, hauthority, d, path, rfl, hd⟩ := exists_of_cutAt? hslash
      obtain rfl := of_decide_eq_true hd
      have hnot : '/' ∉ authority := fun hmem => by simpa using hauthority '/' hmem
      have hslice : Text.sliceFrom? (String.ofList (authority ++ '/' :: path))
          ((String.ofList authority).utf8ByteSize + 1) = some (String.ofList path) :=
        Text.sliceFrom?_add ['/'] String.toList_ofList
      simp only [(IsFirst.of_not_mem hnot path).findByte?, hslice, Option.bind_some,
        String.toList_ofList, List.tail_cons]
      rfl

/-! ### Texts that name a database -/

/-- A text names a database: the name stands between the first slash after the first end of a
scheme and the next question mark, or the end of the text, and is not empty. -/
structure Names (dsn name : String) : Prop where
  ne_empty : name ≠ ""
  no_mark : '?' ∉ name.toList
  parts : ∃ scheme authority rest : List Char,
    dsn.toList = scheme ++ ("://".toList ++ (authority ++ '/' :: (name.toList ++ rest))) ∧
    (∀ before after, dsn.toList = before ++ ("://".toList ++ after) →
      scheme.length ≤ before.length) ∧
    '/' ∉ authority ∧ ∀ c ∈ rest.head?, c = '?'

variable {dsn name : String}

lemma takeWhile_append {cs rest : List Char} (h : '?' ∉ cs) (hrest : ∀ c ∈ rest.head?, c = '?') :
    (cs ++ rest).takeWhile (· ≠ '?') = cs := by
  have hcs : ∀ c ∈ cs, decide (c ≠ '?') = true := by
    rintro c hc
    simp only [ne_eq, decide_not, Bool.not_eq_true', decide_eq_false_iff_not]
    rintro rfl
    exact h hc
  rw [List.takeWhile_append_of_pos hcs]
  cases rest with
  | nil => exact List.append_nil cs
  | cons c rest =>
    rw [hrest c rfl]
    exact List.append_nil cs

lemma Names.database?_eq (h : Names dsn name) : database? dsn = some name := by
  obtain ⟨scheme, authority, rest, hdsn, hleast, hauthority, hrest⟩ := h.parts
  have hfirst : IsFirst schemeEnd dsn.toList scheme (authority ++ '/' :: (name.toList ++ rest)) :=
    ⟨hdsn, hleast⟩
  have hname := takeWhile_append h.no_mark hrest
  have hne : name.toList ≠ [] := by simpa using h.ne_empty
  simp only [database?, hfirst.cutAfter?, cutAt?_of_not_mem hauthority, Option.bind_eq_bind,
    Option.bind_some, List.tail_cons, hname, if_neg hne, String.ofList_toList]

lemma names_of_database? (h : database? dsn = some name) : Names dsn name := by
  cases hscheme : Text.cutAfter? schemeEnd dsn.toList with
  | none => simp [database?, hscheme] at h
  | some x =>
  cases hslash : Text.cutAt? (· = '/') x.2 with
  | none => simp [database?, hscheme, hslash] at h
  | some y =>
  obtain ⟨before, rest⟩ := x
  obtain ⟨authority, path⟩ := y
  obtain ⟨scheme, rfl, hfirst⟩ := exists_isFirst_of_cutAfter? hscheme
  obtain ⟨rfl, hauthority, d, path, rfl, hd⟩ := exists_of_cutAt? hslash
  obtain rfl := of_decide_eq_true hd
  simp only [database?, hscheme, hslash, Option.bind_eq_bind, Option.bind_some] at h
  split_ifs at h with hne
  cases h
  rw [List.tail_cons] at hne ⊢
  have htoList : (String.ofList (path.takeWhile (· ≠ '?'))).toList = path.takeWhile (· ≠ '?') :=
    String.toList_ofList
  refine ⟨?_, ?_, scheme, authority, path.dropWhile (· ≠ '?'), ?_, hfirst.least, ?_, ?_⟩
  · simpa using hne
  · rw [htoList]
    intro hmem
    simpa using List.mem_takeWhile_imp hmem
  · rw [htoList, List.takeWhile_append_dropWhile]
    exact hfirst.eq_append
  · exact fun hmem => by simpa using hauthority '/' hmem
  · intro c hc
    have hhead := List.head?_dropWhile_not (· ≠ '?') path
    rw [Option.mem_def.1 hc] at hhead
    simpa using hhead

lemma database?_eq_some_iff : database? dsn = some name ↔ Names dsn name :=
  ⟨names_of_database?, Names.database?_eq⟩

/-! ### Connection strings -/

lemma database?_build_eq {t : Tenant} (h : '/' ∉ t.host.toList) (user password : String)
    (mode : SslMode) :
    database? (build t user password mode) =
      if t.database = "" then none else some (String.ofList (encode t.database.toList)) := by
  let authority := encode user.toList ++ ':' :: (encode password.toList ++ '@' ::
    (hostPart t.host.toList ++ ':' :: Text.decimal t.port))
  let query := "?sslmode=".toList ++ mode.name.toList
  have hauthority : '/' ∉ authority := by
    simp [authority, not_mem_encode (d := '/') rfl (by decide),
      not_mem_hostPart (d := '/') (by decide) (by decide) h, not_mem_decimal (d := '/') rfl]
  have hcut : Text.cutAfter? schemeEnd (build t user password mode).toList =
      some ("postgres://".toList, authority ++ '/' :: (encode t.database.toList ++ query)) := by
    rw [cutAfter?_build]
    simp [authority, query, location]
  have hname : (encode t.database.toList ++ query).takeWhile (· ≠ '?') =
      encode t.database.toList :=
    takeWhile_append (not_mem_encode rfl (by decide) _) fun c hc => by
      cases hc
      rfl
  have hempty : encode t.database.toList = [] ↔ t.database = "" := by
    rw [← String.toList_eq_nil_iff]
    exact encode_injective.eq_iff (b := [])
  simp only [database?, hcut, cutAt?_of_not_mem hauthority, Option.bind_eq_bind, Option.bind_some,
    List.tail_cons, hname, hempty]

end Dsn

end Tenancy
