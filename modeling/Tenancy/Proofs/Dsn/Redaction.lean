import Tenancy.Proofs.Dsn.Password
import Tenancy.Proofs.Text.Decimal

/-!
# Redaction of a connection string

The redaction finds the password between the first colon and the last `@` of what it takes for the
credentials and the host, whatever the text is: `redactAuthority?_eq_some_iff`. In a redacted text
it finds the asterisks there. In a connection string it finds the encoded password, unless an `@` in
the host makes it take a part of the host for it.
-/

namespace Tenancy.Dsn

open Text (cutAfter?_append cutAt?_of_not_mem
  cutAtLast?_of_not_mem exists_cutAt?_append exists_of_cutAt? exists_of_cutAtLast?
  getD_cutAt?_eq_iff not_mem_decimal)

/-! ### What the redaction finds -/

/-- What stands for the password in a redacted text. -/
def mask : List Char := "***".toList

/-- The parts of the text after the scheme. -/
structure Authority where
  user : List Char
  password : List Char
  host : List Char
  tail : List Char

namespace Authority

/-- The text of the credentials and the host. -/
def core (a : Authority) : List Char := a.user ++ ':' :: (a.password ++ '@' :: a.host)

/-- The text after the scheme. -/
def text (a : Authority) : List Char := a.core ++ a.tail

/-- The parts that are found in their text: the user ends at the first colon, the password at the
last `@`, and the host at the first slash or question mark. -/
structure IsFound (a : Authority) : Prop where
  user : ':' ∉ a.user
  host : '@' ∉ a.host
  core : ∀ c ∈ a.core, endsAuthority c = false
  tail : ∀ c ∈ a.tail.head?, endsAuthority c = true

variable {a : Authority}

lemma mem_core {c : Char} :
    c ∈ a.core ↔ c ∈ a.user ∨ c = ':' ∨ c ∈ a.password ∨ c = '@' ∨ c ∈ a.host := by
  simp [core]

/-- Another password without a slash and a question mark is found in the place of the first. -/
lemma IsFound.withPassword (h : a.IsFound) {password : List Char}
    (hpassword : ∀ c ∈ password, endsAuthority c = false) :
    IsFound { a with password } := by
  refine ⟨h.user, h.host, fun c hc => ?_, h.tail⟩
  rcases mem_core.1 hc with huser | rfl | hmem | rfl | hhost
  · exact h.core c (mem_core.2 (.inl huser))
  · rfl
  · exact hpassword c hmem
  · rfl
  · exact h.core c (mem_core.2 (.inr (.inr (.inr (.inr hhost)))))

/-- The redaction replaces the password that it finds. -/
lemma IsFound.redactAuthority? (h : a.IsFound) :
    redactAuthority? a.text = some { a with password := mask }.text := by
  have hcut := getD_cutAt?_eq_iff.2 ⟨rfl, h.core, h.tail⟩
  have hcredentials :
      Text.cutAtLast? (fun c => decide (c = '@')) a.core =
        some (a.user ++ ':' :: a.password, '@' :: a.host) := by
    rw [Authority.core, ← List.cons_append, ← List.append_assoc]
    exact cutAtLast?_of_not_mem h.host _
  rw [Dsn.redactAuthority?]
  simp only [text, hcut, hcredentials, cutAt?_of_not_mem h.user, Option.bind_eq_bind,
    Option.bind_some]
  simp [Authority.core, mask]

end Authority

open Authority

/-- Whatever is redacted, the parts are found in it. -/
lemma exists_of_redactAuthority? {rest left : List Char} (h : redactAuthority? rest = some left) :
    ∃ a : Authority, a.IsFound ∧ a.text = rest := by
  cases hcut : (Text.cutAt? endsAuthority rest).getD (rest, []) with
  | mk core tail =>
  cases hcredentials : Text.cutAtLast? (fun c => decide (c = '@')) core with
  | none => simp [redactAuthority?, hcut, hcredentials] at h
  | some x =>
  cases huser : Text.cutAt? (fun c => decide (c = ':')) x.1 with
  | none => simp [redactAuthority?, hcut, hcredentials, huser] at h
  | some y =>
  obtain ⟨hrest, hcore, htail⟩ := getD_cutAt?_eq_iff.1 hcut
  obtain ⟨hx, sign, host, hhost, hsign, hnotHost⟩ := exists_of_cutAtLast? hcredentials
  obtain ⟨hy, hnotUser, colon, password, hpassword, hcolon⟩ := exists_of_cutAt? huser
  obtain rfl := of_decide_eq_true hsign
  obtain rfl := of_decide_eq_true hcolon
  have hparts : core = y.1 ++ ':' :: (password ++ '@' :: host) := by
    rw [hx, hy, hhost, hpassword, List.append_assoc, List.cons_append]
  refine ⟨⟨y.1, password, host, tail⟩, ⟨?_, ?_, ?_, htail⟩, ?_⟩
  · intro hmem
    simpa using hnotUser _ hmem
  · intro hmem
    simpa using hnotHost _ hmem
  · rwa [hparts] at hcore
  · rw [hrest, hparts]
    rfl

/-- A text is redacted exactly if the parts are found in it, and then the asterisks stand for the
password. -/
theorem redactAuthority?_eq_some_iff {rest left : List Char} :
    redactAuthority? rest = some left ↔
      ∃ a : Authority, a.IsFound ∧ a.text = rest ∧ { a with password := mask }.text = left := by
  constructor
  · intro h
    obtain ⟨a, ha, rfl⟩ := exists_of_redactAuthority? h
    exact ⟨a, ha, rfl, Option.some.inj (ha.redactAuthority?.symm.trans h)⟩
  · rintro ⟨a, ha, rfl, rfl⟩
    exact ha.redactAuthority?

/-! ### Redacting again -/

lemma endsAuthority_mask : ∀ c ∈ mask, endsAuthority c = false := by
  simp [mask, endsAuthority]

lemma redactAuthority?_redacted {rest left : List Char} (h : redactAuthority? rest = some left) :
    redactAuthority? left = some left := by
  obtain ⟨a, ha, -, rfl⟩ := redactAuthority?_eq_some_iff.1 h
  exact (ha.withPassword endsAuthority_mask).redactAuthority?

/-- Redacting a redacted text changes nothing. -/
lemma redact_redact (s : String) : redact (redact s) = redact s := by
  cases hscheme : Text.cutAfter? schemeEnd s.toList with
  | none =>
    have hs : redact s = s := by simp [redact, hscheme]
    rw [hs, hs]
  | some x =>
    cases hrest : redactAuthority? x.2 with
    | none =>
      have hs : redact s = s := by simp [redact, hscheme, hrest]
      rw [hs, hs]
    | some left =>
      rw [redact_eq hscheme hrest]
      apply redact_eq _ (redactAuthority?_redacted hrest)
      rw [String.toList_ofList]
      exact cutAfter?_append hscheme left

/-! ### Redacting a connection string -/

lemma endsAuthority_of_mem_encode {cs : List Char} {c : Char} (h : c ∈ encode cs) :
    endsAuthority c = false := by
  by_contra hc
  have hu := isUnreserved_of_endsAuthority c (Bool.not_eq_false _ ▸ hc)
  rcases mem_encode h with hc' | rfl
  · rw [hu] at hc'
    cases hc'
  · exact hc rfl

/-- The authority of a connection string ends before the path, at the latest. -/
lemma exists_location (t : Tenant) (mode : SslMode) :
    ∃ host tail, location t mode = host ++ tail ∧
      host ⊆ hostPart t.host.toList ++ ':' :: Text.decimal t.port ∧
      (∀ c ∈ host, endsAuthority c = false) ∧ ∀ c ∈ tail.head?, endsAuthority c = true := by
  obtain ⟨host, tail, hcut, hsub⟩ := exists_cutAt?_append (p := endsAuthority) (d := '/') rfl
    (hostPart t.host.toList ++ ':' :: Text.decimal t.port)
    (encode t.database.toList ++ "?sslmode=".toList ++ mode.name.toList)
  obtain ⟨hparts, hhost, d, rest, rfl, hd⟩ := exists_of_cutAt? hcut
  refine ⟨host, d :: rest, ?_, hsub, hhost, by simpa using hd⟩
  rw [← hparts, location]
  simp

/-- In a connection string whose host has no `@`, the redaction finds the encoded password. -/
lemma redact_build_eq {t : Tenant} (h : '@' ∉ t.host.toList) (user password : String)
    (mode : SslMode) :
    redact (build t user password mode) =
      String.ofList (opening user ++ (mask ++ '@' :: location t mode)) := by
  obtain ⟨host, tail, hlocation, hsub, hhost, htail⟩ := exists_location t mode
  have hfound : IsFound ⟨encode user.toList, encode password.toList, host, tail⟩ := by
    refine ⟨not_mem_encode rfl (by decide) _, fun hmem => ?_, fun c hc => ?_, htail⟩
    · have hpart := not_mem_hostPart (d := '@') (by decide) (by decide) h
      have hport := not_mem_decimal (d := '@') rfl t.port
      simpa [hpart, hport] using hsub hmem
    · rcases mem_core.1 hc with huser | rfl | hpassword | rfl | hmem
      · exact endsAuthority_of_mem_encode huser
      · rfl
      · exact endsAuthority_of_mem_encode hpassword
      · rfl
      · exact hhost c hmem
  have hleft :
      redactAuthority? (encode user.toList ++ ':' :: (encode password.toList ++ '@' ::
          location t mode)) =
        some (encode user.toList ++ ':' :: (mask ++ '@' :: location t mode)) := by
    rw [hlocation]
    simpa [Authority.text, Authority.core] using hfound.redactAuthority?
  refine (redact_eq (cutAfter?_build t user password mode) hleft).trans (congrArg String.ofList ?_)
  unfold opening
  simp only [List.append_assoc, List.cons_append, List.nil_append]

/-- What is logged of a connection string is the same for all passwords. As long as there is no `@`
in the host, it is the string with asterisks in the place of the encoded password and everything
else kept. And what is logged of a text, be it a connection string or not, is not changed by
redacting it again. -/
theorem redaction_exact (t : Tenant) (user : String) (mode : SslMode) :
    (∀ password password', redact (build t user password mode) =
      redact (build t user password' mode)) ∧
    ('@' ∉ t.host.toList → ∀ password,
      (build t user password mode).toList =
        opening user ++ (encode password.toList ++ '@' :: location t mode) ∧
      (redact (build t user password mode)).toList =
        opening user ++ ("***".toList ++ '@' :: location t mode)) ∧
    ∀ s, redact (redact s) = redact s := by
  refine ⟨fun password password' => redact_build t user password password' mode,
    fun h password => ⟨toList_build t user password mode, ?_⟩, redact_redact⟩
  rw [redact_build_eq h, String.toList_ofList, mask]

/-- A database behind a host with delimiters other than an `@`. -/
def behindSlash : Tenant := Tenant.new "acme" "Acme" "db/x?y:z" 5432 "acme"

/-- A slash, a question mark and a colon in the host do not keep the password from being found, and
neither do delimiters in the password. -/
theorem redaction_exact_behindSlash :
    '@' ∉ behindSlash.host.toList ∧
      (build behindSlash "app" "p@ss:w/rd?" .require).toList =
        opening "app" ++ (encode "p@ss:w/rd?".toList ++ '@' :: location behindSlash .require) ∧
      (redact (build behindSlash "app" "p@ss:w/rd?" .require)).toList =
        opening "app" ++ ("***".toList ++ '@' :: location behindSlash .require) := by
  have h : '@' ∉ behindSlash.host.toList := by decide
  obtain ⟨-, hkept, -⟩ := redaction_exact behindSlash "app" .require
  exact ⟨h, hkept h "p@ss:w/rd?"⟩

end Tenancy.Dsn
