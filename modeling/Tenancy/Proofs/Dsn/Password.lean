import Mathlib.Data.List.Basic
import Mathlib.Order.Nat
import Tenancy.Dsn.Basic
import Tenancy.Proofs.Text.Cut

/-!
# The password in a connection string

Encoding leaves no delimiter in a text and can be undone, so that the password of a connection
string stands between two texts that do not depend on it (`toList_build`). What is read from the
string and what is logged of it is the same for all passwords, and the string as a whole for no
two: `database?_build`, `redact_build`, `build_inj_password`.
-/

namespace Tenancy.Dsn

open Text (cutAt?_append cutAtLast?_append exists_cutAtLast?_cons)

variable {t : Tenant} {user password password' : String} {mode : SslMode}

/-! ### Encoding leaves no delimiter -/

lemma isUnreserved_hexDigit : ∀ n < 16, isUnreserved (Nat.digitChar n).toUpper = true := by
  decide

lemma mem_encodeByte {b : UInt8} {c : Char} (h : c ∈ encodeByte b) :
    isUnreserved c = true ∨ c = '%' := by
  have hb := b.toNat_lt
  simp only [encodeByte, List.mem_cons, List.not_mem_nil, or_false] at h
  rcases h with rfl | rfl | rfl
  · exact .inr rfl
  · exact .inl (isUnreserved_hexDigit _ (by omega))
  · exact .inl (isUnreserved_hexDigit _ (by omega))

lemma mem_encode {cs : List Char} {c : Char} (h : c ∈ encode cs) :
    isUnreserved c = true ∨ c = '%' := by
  obtain ⟨d, -, hd⟩ := List.mem_flatMap.1 h
  unfold encodeChar at hd
  split at hd
  next hu =>
    rw [List.mem_singleton.1 hd]
    exact .inl hu
  next =>
    obtain ⟨b, -, hb⟩ := List.mem_flatMap.1 hd
    exact mem_encodeByte hb

/-- No delimiter is left in what was encoded. -/
lemma not_mem_encode {d : Char} (h : isUnreserved d = false) (hd : d ≠ '%') (cs : List Char) :
    d ∉ encode cs := by
  intro hmem
  rcases mem_encode hmem with hu | heq
  · rw [h] at hu
    cases hu
  · exact hd heq

lemma not_mem_hostPart {d : Char} (hopen : d ≠ '[') (hclose : d ≠ ']') {host : List Char}
    (h : d ∉ host) : d ∉ hostPart host := by
  unfold hostPart
  split
  next => simp [hopen, hclose, h]
  next => exact h

/-! ### Encoding can be undone -/

/-- How a byte is written: as the character with this number if it is unreserved. -/
def byteText (b : UInt8) : List Char :=
  if isUnreserved (Char.ofNat b.toNat) then [Char.ofNat b.toNat] else encodeByte b

lemma toNat_lt_of_val_le {b c : Char} (hb : b.toNat < 128) (h : c.val ≤ b.val) : c.toNat < 128 :=
  (UInt32.le_iff_toNat_le.1 h).trans_lt hb

lemma toNat_lt_of_isAlphanum {c : Char} (h : c.isAlphanum = true) : c.toNat < 128 := by
  have h : ((c.isUpper || c.isLower) || c.isDigit) = true := h
  simp only [Bool.or_eq_true] at h
  rcases h with (hupper | hlower) | hdigit
  · have hupper : c.val ≥ 'A'.val ∧ c.val ≤ 'Z'.val := of_decide_eq_true hupper
    exact toNat_lt_of_val_le (by decide) hupper.2
  · have hlower : (decide (c.val ≥ 'a'.val) && decide (c.val ≤ 'z'.val)) = true := hlower
    exact toNat_lt_of_val_le (by decide) (of_decide_eq_true (Bool.and_eq_true_iff.1 hlower).2)
  · have hdigit : (decide (c.val ≥ '0'.val) && decide (c.val ≤ '9'.val)) = true := hdigit
    exact toNat_lt_of_val_le (by decide) (of_decide_eq_true (Bool.and_eq_true_iff.1 hdigit).2)

lemma toNat_lt_of_isUnreserved {c : Char} (h : isUnreserved c = true) : c.toNat < 128 := by
  simp only [isUnreserved, Bool.or_eq_true, decide_eq_true_eq] at h
  rcases h with (((h | rfl) | rfl) | rfl) | rfl
  · exact toNat_lt_of_isAlphanum h
  all_goals decide

lemma utf8EncodeChar_of_lt {c : Char} (h : c.toNat < 128) :
    String.utf8EncodeChar c = [UInt8.ofNat c.toNat] := by
  unfold String.utf8EncodeChar
  exact if_pos (Nat.le_of_lt_succ h)

/-- The bytes of a character outside of ASCII are outside of ASCII. -/
lemma le_of_mem_utf8EncodeChar {c : Char} (h : 128 ≤ c.toNat) {b : UInt8}
    (hb : b ∈ String.utf8EncodeChar c) : 128 ≤ b.toNat := by
  have hval : ¬ c.val.toNat ≤ 127 := not_le.2 h
  simp only [String.utf8EncodeChar, hval, if_false] at hb
  split at hb
  · simp only [List.mem_cons, List.not_mem_nil, or_false] at hb
    rcases hb with rfl | rfl <;> simp only [UInt8.toNat_ofNat'] <;> omega
  split at hb
  · simp only [List.mem_cons, List.not_mem_nil, or_false] at hb
    rcases hb with rfl | rfl | rfl <;> simp only [UInt8.toNat_ofNat'] <;> omega
  · simp only [List.mem_cons, List.not_mem_nil, or_false] at hb
    rcases hb with rfl | rfl | rfl | rfl <;> simp only [UInt8.toNat_ofNat'] <;> omega

lemma toNat_ofNat_byte (b : UInt8) : (Char.ofNat b.toNat).toNat = b.toNat := by
  have hb := b.toNat_lt
  rw [Char.ofNat, dif_pos (.inl (by omega))]
  rfl

lemma ofNat_toNat_byte {c : Char} (h : c.toNat < 128) :
    Char.ofNat (UInt8.ofNat c.toNat).toNat = c := by
  rw [UInt8.toNat_ofNat_of_lt' (h.trans (by decide)), Char.ofNat_toNat]

lemma encodeChar_eq (c : Char) : encodeChar c = (String.utf8EncodeChar c).flatMap byteText := by
  unfold encodeChar
  split
  next hu =>
    have hlt := toNat_lt_of_isUnreserved hu
    rw [utf8EncodeChar_of_lt hlt, List.flatMap_singleton, byteText, ofNat_toNat_byte hlt,
      if_pos hu]
  next hu =>
    apply List.flatMap_congr
    intro b hb
    rw [byteText, if_neg]
    by_cases hlt : c.toNat < 128
    · rw [utf8EncodeChar_of_lt hlt] at hb
      rwa [List.mem_singleton.1 hb, ofNat_toNat_byte hlt]
    · intro hub
      have hle := le_of_mem_utf8EncodeChar (not_lt.1 hlt) hb
      have := toNat_lt_of_isUnreserved hub
      rw [toNat_ofNat_byte] at this
      omega

lemma encode_eq (cs : List Char) :
    encode cs = (cs.flatMap String.utf8EncodeChar).flatMap byteText := by
  rw [List.flatMap_assoc]
  exact List.flatMap_congr fun c _ => encodeChar_eq c

lemma hexDigit_inj : ∀ m < 16, ∀ n < 16,
    (Nat.digitChar m).toUpper = (Nat.digitChar n).toUpper → m = n := by
  decide

lemma encodeByte_append_inj {b b' : UInt8} {rest rest' : List Char}
    (h : encodeByte b ++ rest = encodeByte b' ++ rest') : b = b' ∧ rest = rest' := by
  have hb := b.toNat_lt
  have hb' := b'.toNat_lt
  simp only [encodeByte, List.cons_append, List.nil_append, List.cons.injEq, true_and] at h
  obtain ⟨hhigh, hlow, hrest⟩ := h
  have hhigh := hexDigit_inj _ (by omega) _ (by omega) hhigh
  have hlow := hexDigit_inj _ (by omega) _ (by omega) hlow
  exact ⟨UInt8.toNat_inj.1 (by omega), hrest⟩

/-- A byte can be read off the text that it starts. -/
lemma byteText_append_inj {b b' : UInt8} {rest rest' : List Char}
    (h : byteText b ++ rest = byteText b' ++ rest') : b = b' ∧ rest = rest' := by
  unfold byteText at h
  split at h <;> split at h
  · simp only [List.singleton_append, List.cons.injEq] at h
    have heq := congrArg Char.toNat h.1
    rw [toNat_ofNat_byte, toNat_ofNat_byte] at heq
    exact ⟨UInt8.toNat_inj.1 heq, h.2⟩
  next hu _ =>
    rw [List.singleton_append, encodeByte, List.cons_append, List.cons.injEq] at h
    rw [h.1] at hu
    cases hu
  next _ hu =>
    rw [List.singleton_append, encodeByte, List.cons_append, List.cons.injEq] at h
    rw [← h.1] at hu
    cases hu
  · exact encodeByte_append_inj h

lemma byteText_ne_nil (b : UInt8) : byteText b ≠ [] := by
  unfold byteText encodeByte
  split <;> exact List.cons_ne_nil _ _

lemma flatMap_byteText_injective {bs bs' : List UInt8}
    (h : bs.flatMap byteText = bs'.flatMap byteText) : bs = bs' := by
  induction bs generalizing bs' with
  | nil =>
    cases bs' with
    | nil => rfl
    | cons b' bs' => simp [byteText_ne_nil] at h
  | cons b bs ih =>
    cases bs' with
    | nil => simp [byteText_ne_nil] at h
    | cons b' bs' =>
      obtain ⟨rfl, hrest⟩ := byteText_append_inj (by simpa only [List.flatMap_cons] using h)
      rw [ih hrest]

/-- Different texts have different encoded forms. -/
lemma encode_injective : Function.Injective encode := by
  intro cs cs' h
  rw [encode_eq, encode_eq] at h
  have hbytes := flatMap_byteText_injective h
  apply String.ofList_injective
  apply String.toByteArray_inj.1
  simp only [String.toByteArray_ofList, List.utf8Encode, hbytes]

/-! ### Around the password -/

/-- A connection string from its host on. -/
def location (t : Tenant) (mode : SslMode) : List Char :=
  hostPart t.host.toList ++ ':' :: Text.decimal t.port ++ '/' :: encode t.database.toList
    ++ "?sslmode=".toList ++ mode.name.toList

/-- The text before the password. -/
def opening (user : String) : List Char := "postgres://".toList ++ encode user.toList ++ [':']

lemma toList_build (t : Tenant) (user password : String) (mode : SslMode) :
    (build t user password mode).toList =
      opening user ++ (encode password.toList ++ '@' :: location t mode) := by
  unfold build opening location
  refine String.toList_ofList.trans ?_
  simp only [List.append_assoc, List.cons_append, List.nil_append]

/-- The string with another password in the place of the one that it was built with. -/
def exchange (user password password' dsn : String) : String :=
  .ofList <| opening user ++ (encode password'.toList
    ++ (dsn.toList.drop (opening user).length).drop (encode password.toList).length)

theorem exchange_build (t : Tenant) (user password password' : String) (mode : SslMode) :
    exchange user password password' (build t user password mode) =
      build t user password' mode := by
  apply String.toList_injective
  simp only [exchange, String.toList_ofList, toList_build, List.drop_left]

/-- Strings with different passwords differ. -/
theorem build_inj_password (h : build t user password mode = build t user password' mode) :
    password = password' := by
  have h := congrArg String.toList h
  rw [toList_build, toList_build] at h
  have h := List.append_cancel_left h
  exact String.toList_injective (encode_injective (List.append_cancel_right h))

/-! ### What is read from a string -/

lemma cutAfter?_scheme (rest : List Char) :
    Text.cutAfter? schemeEnd ("postgres://".toList ++ rest) = some ("postgres://".toList, rest) :=
  rfl

lemma cutAfter?_build (t : Tenant) (user password : String) (mode : SslMode) :
    Text.cutAfter? schemeEnd (build t user password mode).toList =
      some ("postgres://".toList,
        encode user.toList ++ ':' :: (encode password.toList ++ '@' :: location t mode)) := by
  rw [toList_build]
  unfold opening
  rw [List.append_assoc, List.append_assoc]
  exact cutAfter?_scheme _

lemma isUnreserved_of_eq {d : Char} (h : isUnreserved d = false) (c : Char)
    (hc : decide (c = d) = true) : isUnreserved c = false := by
  rwa [of_decide_eq_true hc]

lemma isUnreserved_of_endsAuthority (c : Char) (hc : endsAuthority c = true) :
    isUnreserved c = false := by
  rcases Bool.or_eq_true_iff.1 hc with hc | hc
  · exact isUnreserved_of_eq (by rfl) c hc
  · exact isUnreserved_of_eq (by rfl) c hc

/-- Where a text is cut at a character that has a meaning in connection strings. -/
lemma cutAt?_encode {p : Char → Bool} (h : ∀ c, p c = true → isUnreserved c = false)
    (hp : p '%' = false) (cs rest : List Char) :
    Text.cutAt? p (encode cs ++ rest) =
      (Text.cutAt? p rest).map fun x => (encode cs ++ x.1, x.2) := by
  apply cutAt?_append
  intro c hc
  by_contra hpc
  rw [Bool.not_eq_false] at hpc
  rcases mem_encode hc with hu | rfl
  · rw [h c hpc] at hu
    cases hu
  · rw [hp] at hpc
    cases hpc

/-- The user and the password are passed over by a search for what ends them. -/
lemma cutAt?_credentials {p : Char → Bool} (h : ∀ c, p c = true → isUnreserved c = false)
    (hp : p '%' = false) (hcolon : p ':' = false) (cs cs' rest : List Char) :
    Text.cutAt? p (encode cs ++ ':' :: (encode cs' ++ rest)) =
      (Text.cutAt? p rest).map fun x => (encode cs ++ ':' :: (encode cs' ++ x.1), x.2) := by
  rw [cutAt?_encode h hp, Text.cutAt?, if_neg (by rw [hcolon]; exact Bool.false_ne_true),
    cutAt?_encode h hp, Option.map_map, Option.map_map]
  rfl

/-- The name of the database is read from what stands after the password. -/
theorem database?_build (t : Tenant) (user password password' : String) (mode : SslMode) :
    database? (build t user password mode) = database? (build t user password' mode) := by
  have hslash : ∀ c : Char, decide (c = '/') = true → isUnreserved c = false :=
    isUnreserved_of_eq rfl
  simp only [database?, cutAfter?_build, Option.bind_eq_bind, Option.bind_some,
    cutAt?_credentials hslash rfl rfl]
  cases Text.cutAt? (fun c => decide (c = '/')) ('@' :: location t mode) <;> rfl

lemma cutAt?_user (user rest : List Char) :
    Text.cutAt? (fun c => decide (c = ':')) (encode user ++ ':' :: rest) =
      some (encode user, ':' :: rest) := by
  rw [cutAt?_encode (isUnreserved_of_eq rfl) rfl, Text.cutAt?, if_pos (decide_eq_true rfl),
    Option.map_some, List.append_nil]

/-- What is left of the credentials and the host, whatever the password was. -/
lemma exists_redactAuthority? (user rest : List Char) :
    ∃ left, ∀ password, redactAuthority? (encode user ++ ':' :: (encode password ++ '@' :: rest)) =
      some (encode user ++ left) := by
  let cut := (Text.cutAt? endsAuthority rest).getD (rest, [])
  obtain ⟨⟨before, host⟩, hat⟩ :=
    exists_cutAtLast?_cons (p := fun c => decide (c = '@')) (c := '@') rfl cut.1
  refine ⟨[':', '*', '*', '*'] ++ (host ++ cut.2), fun password => ?_⟩
  have hauthority :
      (Text.cutAt? endsAuthority (encode user ++ ':' :: (encode password ++ '@' :: rest))).getD
        (encode user ++ ':' :: (encode password ++ '@' :: rest), []) =
      (encode user ++ ':' :: (encode password ++ '@' :: cut.1), cut.2) := by
    rw [cutAt?_credentials isUnreserved_of_endsAuthority rfl rfl, Text.cutAt?, if_neg (by decide)]
    cases h : Text.cutAt? endsAuthority rest <;> simp only [cut, h] <;> rfl
  have hcredentials := cutAtLast?_append hat (encode user ++ ':' :: encode password)
  simp only [List.append_assoc, List.cons_append] at hcredentials
  simp only [redactAuthority?, hauthority, hcredentials, cutAt?_user, Option.bind_eq_bind,
    Option.bind_some, Option.pure_def, List.append_assoc]

lemma redact_eq {dsn : String} {scheme rest left : List Char}
    (h : Text.cutAfter? schemeEnd dsn.toList = some (scheme, rest))
    (hleft : redactAuthority? rest = some left) : redact dsn = String.ofList (scheme ++ left) := by
  simp only [redact, h, hleft, Option.bind_eq_bind, Option.bind_some, Option.pure_def,
    Option.map_some, Option.getD_some]

/-- What is logged of a string does not depend on the password. -/
theorem redact_build (t : Tenant) (user password password' : String) (mode : SslMode) :
    redact (build t user password mode) = redact (build t user password' mode) := by
  obtain ⟨left, h⟩ := exists_redactAuthority? user.toList (location t mode)
  exact (redact_eq (cutAfter?_build ..) (h _)).trans (redact_eq (cutAfter?_build ..) (h _)).symm

end Tenancy.Dsn
