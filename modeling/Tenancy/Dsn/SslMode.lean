import Tenancy.Text.Blank

/-!
# Modes of encryption

How a connection to a database is encrypted, by the names that connection strings use.
-/

namespace Tenancy

/-- How a connection is encrypted. -/
inductive SslMode
  | disable | allow | prefer | require | verifyCa | verifyFull
  deriving DecidableEq, Repr, Inhabited

/-- A text that names no mode. -/
structure UnknownSslMode where
  keyword : String
  deriving DecidableEq, Repr

/-- The text of the fault. -/
def UnknownSslMode.message (e : UnknownSslMode) : String :=
  "unknown ssl mode '" ++ e.keyword ++ "'"

namespace SslMode

/-- Every mode. -/
def all : List SslMode := [.disable, .allow, .prefer, .require, .verifyCa, .verifyFull]

/-- The name of a mode in a connection string. -/
def name : SslMode → String
  | .disable => "disable"
  | .allow => "allow"
  | .prefer => "prefer"
  | .require => "require"
  | .verifyCa => "verify-ca"
  | .verifyFull => "verify-full"

/-- The name of a mode in a diagnostic. -/
def label : SslMode → String
  | .disable => "Disable"
  | .allow => "Allow"
  | .prefer => "Prefer"
  | .require => "Require"
  | .verifyCa => "VerifyCa"
  | .verifyFull => "VerifyFull"

/-- The mode that a text names, whatever white space is around it and whatever the case of its
letters. -/
def parse (s : String) : Except UnknownSslMode SslMode :=
  let keyword := Text.keyword s
  (all.find? (·.name = keyword)).elim (.error ⟨keyword⟩) .ok

end SslMode

end Tenancy
