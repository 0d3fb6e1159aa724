import Tenancy.Settings.Basic
import Tenancy.Toml.Reader
import Tenancy.Toml.Source
import Tenancy.Toml.Writer

/-!
# The file of settings

Settings are kept in a TOML text, one table for each section that is present. Absent values are
left out.
-/

namespace Tenancy

/-- A pair for a value that is present. -/
def Toml.pair? {α : Type} (key : String) (scalar : α → Toml.Scalar) (value : Option α) :
    List (String × Toml.Scalar) :=
  value.toList.map fun a => (key, scalar a)

/-- The table of the section on the database. -/
def DatabaseSettings.toSection (d : DatabaseSettings) : Toml.Section :=
  ⟨"database",
    ("user", .string d.user) :: Toml.pair? "password" .string d.password
      ++ Toml.pair? "password_env" .string d.passwordVariable
      ++ Toml.pair? "ssl_mode" .string d.sslMode⟩

/-- The table of the section on pools. -/
def PoolSettings.toSection (p : PoolSettings) : Toml.Section :=
  ⟨"pool",
    Toml.pair? "max_conns_per_tenant" .natural p.maxConnections
      ++ Toml.pair? "min_conns_per_tenant" .natural p.minConnections
      ++ Toml.pair? "connect_timeout" .string p.connectTimeout
      ++ Toml.pair? "max_total_pools" .natural p.maxPools
      ++ Toml.pair? "idle_timeout" .string p.idleTimeout
      ++ Toml.pair? "health_check_period" .string p.healthPeriod⟩

/-- The table of the section on the directory. -/
def DirectorySettings.toSection (d : DirectorySettings) : Toml.Section :=
  ⟨"directory", Toml.pair? "path" .string d.path⟩

/-- The table of the section on numbering. -/
def NumberingSettings.toSection (n : NumberingSettings) : Toml.Section :=
  ⟨"numbering",
    Toml.pair? "strategy" .string n.strategy ++ Toml.pair? "range_size" .natural n.rangeSize⟩

/-- The table of the section on logging. -/
def LoggingSettings.toSection (l : LoggingSettings) : Toml.Section :=
  ⟨"logging", Toml.pair? "filter" .string l.filter ++ [("format", .string l.format.name)]⟩

namespace Settings

/-- The tables of the sections that are present. -/
def toSections (s : Settings) : List Toml.Section :=
  s.database.toSection :: (s.pool.map PoolSettings.toSection).toList
    ++ (s.directory.map DirectorySettings.toSection).toList
    ++ (s.numbering.map NumberingSettings.toSection).toList
    ++ (s.logging.map LoggingSettings.toSection).toList

/-- The text of settings; none if a number has more than 63 bits. -/
def text? (s : Settings) : Option String :=
  Toml.write? s.toSections

/-- Reads the text of settings. -/
def ofText? (s : String) : Option Settings :=
  (Toml.ofText? s).bind Settings.read?

/-- Why a file holds no settings: there is no file, its bytes are no text, or the text holds no
settings. -/
inductive FileFault
  | missing | encoding | malformed
  deriving DecidableEq, Repr

/-- Reads the bytes of a file of settings, if there is one. -/
def ofFile (content : Option ByteArray) : Except FileFault Settings := do
  let some bytes := content | throw .missing
  let some text := String.fromUTF8? bytes | throw .encoding
  let some settings := ofText? text | throw .malformed
  return settings

end Settings

end Tenancy
