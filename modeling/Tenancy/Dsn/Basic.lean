import Tenancy.Dsn.SslMode
import Tenancy.Tenant.Basic
import Tenancy.Text.Cut
import Tenancy.Text.Decimal

/-!
# Connection strings

The address of a tenant's database, with the credentials that all tenants share. User, password
and database are encoded so that no delimiter of the string occurs in them.
-/

namespace Tenancy.Dsn

/-! ### Encoding -/

/-- The characters that are written as they are: ASCII letters and digits, and `-`, `.`, `_`,
`~`. -/
def isUnreserved (c : Char) : Bool :=
  c.isAlphanum || c = '-' || c = '.' || c = '_' || c = '~'

/-- A percent sign and the two upper-case hexadecimal digits of a byte. -/
def encodeByte (b : UInt8) : List Char :=
  ['%', (Nat.digitChar (b.toNat / 16)).toUpper, (Nat.digitChar (b.toNat % 16)).toUpper]

/-- How a character is written: the unreserved ones as they are, the others byte by byte. -/
def encodeChar (c : Char) : List Char :=
  if isUnreserved c then [c] else (String.utf8EncodeChar c).flatMap encodeByte

/-- The encoded form of a text. -/
def encode (cs : List Char) : List Char := cs.flatMap encodeChar

/-! ### Building -/

/-- The host as it stands in the string: an address with colons is put between brackets, unless it
starts with one. -/
def hostPart (host : List Char) : List Char :=
  if host.contains ':' ∧ host.head? ≠ some '[' then '[' :: host ++ [']'] else host

/-- The connection string of a tenant. -/
def build (t : Tenant) (user password : String) (mode : SslMode) : String :=
  String.ofList <|
    "postgres://".toList ++ encode user.toList ++ ':' :: encode password.toList
      ++ '@' :: hostPart t.host.toList ++ ':' :: Text.decimal t.port
      ++ '/' :: encode t.database.toList ++ "?sslmode=".toList ++ mode.name.toList

/-! ### Reading -/

/-- Ends the scheme. -/
def schemeEnd : List Char := [':', '/', '/']

/-- The characters at which the authority ends. -/
def endsAuthority (c : Char) : Bool := c = '/' || c = '?'

/-- Replaces the password in the text after the scheme: the credentials end at the last `@` before
the path and the query, and the password starts after their first colon. -/
def redactAuthority? (rest : List Char) : Option (List Char) := do
  let (authority, tail) := (Text.cutAt? endsAuthority rest).getD (rest, [])
  let (credentials, host) ← Text.cutAtLast? (· = '@') authority
  let (user, _) ← Text.cutAt? (· = ':') credentials
  return user ++ [':', '*', '*', '*'] ++ host ++ tail

/-- The string with three asterisks in place of its password, if it has one. -/
def redact (dsn : String) : String :=
  let redacted? : Option (List Char) := do
    let (scheme, rest) ← Text.cutAfter? schemeEnd dsn.toList
    let rest ← redactAuthority? rest
    return scheme ++ rest
  (redacted?.map String.ofList).getD dsn

/-- The name of the database as it stands in the string: what is between the first slash after the
scheme and the next question mark. It must not be empty. -/
def database? (dsn : String) : Option String := do
  let (_, rest) ← Text.cutAfter? schemeEnd dsn.toList
  let (_, path) ← Text.cutAt? (· = '/') rest
  let name := path.tail.takeWhile (· ≠ '?')
  if name = [] then none else some (String.ofList name)

end Tenancy.Dsn
