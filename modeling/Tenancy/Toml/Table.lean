import Tenancy.Toml.Basic

/-!
# Tables under construction

While a text is read, a table remembers how it came about, because that decides what may still be
added to it: a table that stands under its own header, or was only passed through on the way to
one, or was made by a dotted key.
-/

namespace Tenancy.Toml

/-- How a table came about. -/
inductive Origin
  /-- Under a header of its own, or as the whole text. -/
  | header
  /-- On the way to a table that has a header. -/
  | passage
  /-- By a dotted key. -/
  | dotted
  deriving DecidableEq, Repr

mutual

/-- A table under construction. -/
inductive Table
  | mk (origin : Origin) (entries : List (String × Entry))

/-- What stands under a key of a table: a value, a table, or the tables of an array in order. -/
inductive Entry
  | value (value : Toml)
  | table (table : Table)
  | tables (earlier : List Table) (last : Table)

end

instance : Inhabited Table := ⟨.mk .header []⟩

namespace Table

/-- How the table came about. -/
def origin : Table → Origin
  | .mk origin _ => origin

/-- The entries of the table. -/
def entries : Table → List (String × Entry)
  | .mk _ entries => entries

/-- The table with an entry under a key, in place of an earlier one. -/
def put (t : Table) (key : String) (entry : Entry) : Table :=
  .mk t.origin (t.entries.filter (·.1 ≠ key) ++ [(key, entry)])

/-- Changes the table that a path leads to by `f`. Missing tables on the way are made with the
origin given. A path leads through the last table of an array; it does not lead through a value,
nor, where it is the path of a dotted key, through a table with a header. -/
def descend (making : Origin) (f : Table → Option Table) : List String → Table → Option Table
  | [], t => f t
  | key :: path, t =>
    match t.entries.lookup key with
    | none => (descend making f path (.mk making [])).map fun new => t.put key (.table new)
    | some (.value _) => none
    | some (.tables earlier last) =>
      (descend making f path last).map fun new => t.put key (.tables earlier new)
    | some (.table inner) =>
      if making = .dotted ∧ inner.origin = .header then none
      else (descend making f path inner).map fun new => t.put key (.table new)

/-- Opens the table of a header. It must be new, or have been passed through only. -/
def openTable (path : List String) (key : String) : Table → Option Table :=
  descend .passage (fun t =>
    match t.entries.lookup key with
    | none => some (t.put key (.table (.mk .header [])))
    | some (.table inner) =>
      if inner.origin = .passage then some (t.put key (.table (.mk .header inner.entries)))
      else none
    | some _ => none) path

/-- Opens the next table of an array of tables. -/
def openNext (path : List String) (key : String) : Table → Option Table :=
  descend .passage (fun t =>
    match t.entries.lookup key with
    | none => some (t.put key (.tables [] (.mk .header [])))
    | some (.tables earlier last) =>
      some (t.put key (.tables (earlier ++ [last]) (.mk .header [])))
    | some _ => none) path

/-- Puts a value under a key that is free. A dotted key adds to tables made by dotted keys only,
and a plain key to no such table. -/
def assign (path : List String) (key : String) (value : Toml) : Table → Option Table :=
  descend .dotted (fun t =>
    if (t.origin = .dotted) = (path = []) then none
    else if (t.entries.lookup key).isSome then none
    else some (t.put key (.value value))) path

mutual

/-- The value of a table. -/
def toToml : Table → Toml
  | .mk _ entries => .table (entriesToToml entries)

/-- The values of the entries of a table. -/
def entriesToToml : List (String × Entry) → List (String × Toml)
  | [] => []
  | (key, .value v) :: rest => (key, v) :: entriesToToml rest
  | (key, .table t) :: rest => (key, toToml t) :: entriesToToml rest
  | (key, .tables earlier last) :: rest =>
    (key, .array (tablesToToml earlier ++ [toToml last])) :: entriesToToml rest

/-- The values of tables. -/
def tablesToToml : List Table → List Toml
  | [] => []
  | t :: rest => toToml t :: tablesToToml rest

end

end Table

end Tenancy.Toml
