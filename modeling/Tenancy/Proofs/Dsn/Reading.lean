import Tenancy.Json.Syntax
import Tenancy.Proofs.Dsn.Password
import Tenancy.Proofs.Text.Decimal

/-!
# Reading a connection string

A connection string is cut at its delimiters, and what was encoded is decoded byte by byte. Since no
delimiter is left in what was encoded, this gives back what the string was built from:
`read?_build`. So two strings are the same only if they were built from the same, and what the
string addresses does not depend on the credentials: `build_unambiguous`.
-/

namespace Tenancy.Dsn

open Json.Syntax (hexDigit?)
open Text (afterPrefix?_append cutAt?_of_not_mem cutAtLast?_of_not_mem not_mem_decimal)

/-! ### Decoding -/

/-- The bytes that a text stands for: a percent sign and two hexadecimal digits are one byte, and
every other character is what it is. -/
def decodeBytes : List Char → List UInt8
  | [] => []
  | '%' :: high :: low :: rest =>
    match hexDigit? high, hexDigit? low with
    | some h, some l => UInt8.ofNat (16 * h + l) :: decodeBytes rest
    | _, _ => String.utf8EncodeChar '%' ++ decodeBytes (high :: low :: rest)
  | c :: rest => String.utf8EncodeChar c ++ decodeBytes rest

/-- The text that was encoded, unless the bytes are none of a text. -/
def decode? (cs : List Char) : Option String :=
  String.fromUTF8? (decodeBytes cs).toByteArray

lemma decodeBytes_cons {c : Char} (h : c ≠ '%') (rest : List Char) :
    decodeBytes (c :: rest) = String.utf8EncodeChar c ++ decodeBytes rest := by
  rw [decodeBytes.eq_3 _ _ fun _ _ _ hc => absurd hc h]

lemma hexDigit?_digitChar : ∀ n < 16, hexDigit? (Nat.digitChar n).toUpper = some n := by
  decide

lemma decodeBytes_encodeByte (b : UInt8) (rest : List Char) :
    decodeBytes (encodeByte b ++ rest) = b :: decodeBytes rest := by
  have hb := b.toNat_lt
  have hbyte : UInt8.ofNat (16 * (b.toNat / 16) + b.toNat % 16) = b := by
    rw [Nat.div_add_mod, UInt8.ofNat_toNat]
  simp only [encodeByte, List.cons_append, List.nil_append, decodeBytes,
    hexDigit?_digitChar (b.toNat / 16) (by omega), hexDigit?_digitChar (b.toNat % 16) (by omega),
    hbyte]

lemma decodeBytes_byteText (b : UInt8) (rest : List Char) :
    decodeBytes (byteText b ++ rest) = b :: decodeBytes rest := by
  unfold byteText
  split
  next hu =>
    have hlt := toNat_lt_of_isUnreserved hu
    have hne : Char.ofNat b.toNat ≠ '%' := by
      intro heq
      rw [heq] at hu
      cases hu
    rw [List.singleton_append, decodeBytes_cons hne, utf8EncodeChar_of_lt hlt, toNat_ofNat_byte,
      UInt8.ofNat_toNat]
    rfl
  next => exact decodeBytes_encodeByte b rest

lemma decodeBytes_flatMap (bs : List UInt8) : decodeBytes (bs.flatMap byteText) = bs := by
  induction bs with
  | nil => rfl
  | cons b bs ih => rw [List.flatMap_cons, decodeBytes_byteText, ih]

/-- What was encoded reads back. -/
theorem decode?_encode (s : String) : decode? (encode s.toList) = some s := by
  have hbytes : (decodeBytes (encode s.toList)).toByteArray = s.toByteArray := by
    rw [encode_eq, decodeBytes_flatMap, ← List.utf8Encode, ← String.toByteArray_ofList,
      String.ofList_toList]
  rw [decode?, hbytes, String.fromUTF8?, dif_pos s.isValidUTF8]
  rfl

/-! ### Reading -/

/-- What a connection string says. -/
structure Address where
  user : String
  password : String
  host : String
  port : ℕ
  database : String
  mode : SslMode
  deriving DecidableEq, Repr

/-- Reads a connection string: after the scheme the user up to the first colon, the password up to
the first `@`, the host up to the last colon before the next slash, the port up to that slash, the
database up to the first question mark, and the mode. -/
def Address.read? (dsn : String) : Option Address := do
  let rest ← Text.afterPrefix? "postgres://".toList dsn.toList
  let (user, rest) ← Text.cutAt? (· = ':') rest
  let (password, rest) ← Text.cutAt? (· = '@') rest.tail
  let (authority, rest) ← Text.cutAt? (· = '/') rest.tail
  let (host, port) ← Text.cutAtLast? (· = ':') authority
  let (database, query) ← Text.cutAt? (· = '?') rest.tail
  let mode ← Text.afterPrefix? "?sslmode=".toList query
  let user ← decode? user
  let password ← decode? password
  let port ← Text.digits? port.tail
  let database ← decode? database
  let mode ← SslMode.all.find? (·.name = String.ofList mode)
  return ⟨user, password, String.ofList host, port, database, mode⟩

/-- A host as it is shown: between brackets if it has colons and does not start with a bracket. -/
def shown (host : String) : String :=
  if ':' ∈ host.toList ∧ host.toList.head? ≠ some '[' then "[" ++ host ++ "]" else host

lemma toList_shown (host : String) : (shown host).toList = hostPart host.toList := by
  rw [shown, hostPart]
  simp only [List.contains_iff_mem]
  split
  next =>
    rw [String.toList_append, String.toList_append]
    rfl
  next => rfl

lemma find?_name (mode : SslMode) : SslMode.all.find? (·.name = mode.name) = some mode := by
  cases mode <;> decide

lemma digits?_decimal (n : ℕ) : Text.digits? (Text.decimal n) = some n := by
  have hrun := Text.isRun_decimal n
  rw [Text.digits?, if_pos ⟨hrun.ne_nil, List.all_eq_true.2 hrun.isDigit⟩,
    Text.ofDigitChars_decimal]

/-- A connection string reads back as what it was built from, as long as there is no slash in the
host. -/
theorem read?_build {t : Tenant} (h : '/' ∉ t.host.toList) (user password : String)
    (mode : SslMode) :
    Address.read? (build t user password mode) =
      some ⟨user, password, shown t.host, t.port, t.database, mode⟩ := by
  have huser := cutAt?_of_not_mem (not_mem_encode (d := ':') rfl (by decide) user.toList)
  have hpassword := cutAt?_of_not_mem (not_mem_encode (d := '@') rfl (by decide) password.toList)
  have hdatabase : Text.cutAt? (· = '?')
      (encode t.database.toList ++ ("?sslmode=".toList ++ mode.name.toList)) =
        some (encode t.database.toList, "?sslmode=".toList ++ mode.name.toList) :=
    cutAt?_of_not_mem (not_mem_encode rfl (by decide) _) ("sslmode=".toList ++ mode.name.toList)
  have hauthority : '/' ∉ hostPart t.host.toList ++ ':' :: Text.decimal t.port := by
    simp [not_mem_hostPart (by decide) (by decide) h, not_mem_decimal (d := '/') rfl]
  have hport := cutAtLast?_of_not_mem (not_mem_decimal (d := ':') rfl t.port)
    (hostPart t.host.toList)
  have htext : (build t user password mode).toList =
      "postgres://".toList ++ (encode user.toList ++ ':' :: (encode password.toList ++ '@' ::
        ((hostPart t.host.toList ++ ':' :: Text.decimal t.port) ++ '/' ::
          (encode t.database.toList ++ ("?sslmode=".toList ++ mode.name.toList))))) := by
    refine (toList_build t user password mode).trans ?_
    unfold opening location
    simp only [List.append_assoc, List.cons_append, List.nil_append]
  rw [Address.read?, htext]
  simp only [afterPrefix?_append, huser, hpassword, cutAt?_of_not_mem hauthority, hport, hdatabase,
    List.tail_cons, decode?_encode, digits?_decimal, String.ofList_toList, find?_name,
    Option.bind_eq_bind, Option.bind_some, Option.pure_def]
  rw [← toList_shown, String.ofList_toList]

/-! ### What a connection string addresses -/

/-- Where a connection string leads: the host as it is shown, the port, and the database. -/
def Address.target (a : Address) : String × ℕ × String := (a.host, a.port, a.database)

/-- Nothing else of a tenant is in its connection string. -/
lemma build_congr {t t' : Tenant} (hhost : shown t.host = shown t'.host) (hport : t.port = t'.port)
    (hdatabase : t.database = t'.database) {user password : String} {mode : SslMode} :
    build t user password mode = build t' user password mode := by
  have hpart := congrArg String.toList hhost
  rw [toList_shown, toList_shown] at hpart
  have hlocation : location t mode = location t' mode := by
    unfold location
    simp only [hpart, hport, hdatabase]
  apply String.toList_injective
  exact (toList_build ..).trans (.trans (by rw [hlocation]) (toList_build ..).symm)

/-- Reading a connection string gives back what it was built from, as long as there is no slash in
the host. So two strings are the same only if the credentials, the hosts as they are shown, the
ports, the databases and the modes are; and whatever the credentials, the name of the database and
the mode are, the string leads to this host and port, and to the database with this name. -/
theorem build_unambiguous {t : Tenant} (h : '/' ∉ t.host.toList) (user password : String)
    (mode : SslMode) :
    Address.read? (build t user password mode) =
      some ⟨user, password, shown t.host, t.port, t.database, mode⟩ ∧
    (∀ (t' : Tenant) (user' password' : String) (mode' : SslMode), '/' ∉ t'.host.toList →
      (build t user password mode = build t' user' password' mode' ↔
        user = user' ∧ password = password' ∧ shown t.host = shown t'.host ∧ t.port = t'.port ∧
          t.database = t'.database ∧ mode = mode')) ∧
    ∀ (database user' password' : String) (mode' : SslMode),
      (Address.read? (build { t with database } user' password' mode')).map Address.target =
        some (shown t.host, t.port, database) := by
  refine ⟨read?_build h user password mode, fun t' user' password' mode' h' => ⟨fun heq => ?_, ?_⟩,
    fun database user' password' mode' => ?_⟩
  · have hread := read?_build h user password mode
    rw [heq, read?_build h' user' password' mode'] at hread
    simp only [Option.some.injEq, Address.mk.injEq] at hread
    obtain ⟨rfl, rfl, hhost, hport, hdatabase, rfl⟩ := hread
    exact ⟨rfl, rfl, hhost.symm, hport.symm, hdatabase.symm, rfl⟩
  · rintro ⟨rfl, rfl, hhost, hport, hdatabase, rfl⟩
    exact build_congr hhost hport hdatabase
  · exact congrArg (Option.map Address.target)
      (read?_build (t := { t with database := database }) h user' password' mode')

/-- A database behind an address with colons, whose name has the delimiters in it. -/
def delimiters : Tenant := Tenant.new "acme" "Acme" "::1" 5433 "a/b?c#d%2F"

/-- Delimiters in the credentials and in the name of the database stand for themselves. -/
theorem build_unambiguous_delimiters :
    '/' ∉ delimiters.host.toList ∧
      Address.read? (build delimiters "a:b@c" "p@ss:w/rd é" .verifyFull) =
        some ⟨"a:b@c", "p@ss:w/rd é", "[::1]", 5433, "a/b?c#d%2F", .verifyFull⟩ ∧
      build delimiters "a:b@c" "p@ss:w/rd é" .verifyFull ≠
        build delimiters "a" "b@c:p@ss:w/rd é" .verifyFull ∧
      (Address.read? (build { delimiters with database := "" } "" "" .disable)).map Address.target =
        some ("[::1]", 5433, "") := by
  have h : '/' ∉ delimiters.host.toList := by decide
  obtain ⟨hread, hinj, htarget⟩ :=
    build_unambiguous h "a:b@c" "p@ss:w/rd é" .verifyFull
  refine ⟨h, hread, fun heq => ?_, htarget "" "" "" .disable⟩
  exact absurd ((hinj delimiters "a" "b@c:p@ss:w/rd é" .verifyFull h).1 heq).1 (by decide)

end Tenancy.Dsn
