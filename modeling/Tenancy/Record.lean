/-!
# Records in a data format

A record is read from a value of some data format by the names of its fields. Formats also allow a
record to be written as a list of its fields in order, without names. `Source` says what a format
has to offer; the accessors of `Record` say when a field may be absent.
-/

namespace Tenancy

/-- The fields of a record that are present. In a positional record they are the first ones. -/
structure Record (σ : Type) where
  fields : List (String × σ)
  positional : Bool

/-- A data format from which settings are read. -/
class Source (σ : Type) where
  /-- Whether a value stands for an absent one. -/
  isNull : σ → Bool
  /-- A text. -/
  text? : σ → Option String
  /-- A natural number up to a limit. -/
  natural? : Nat → σ → Option Nat
  /-- The name of an alternative that carries no data. -/
  choice? : σ → Option String
  /-- The record with the given names of fields; a value under another name is left out. -/
  record? : List String → σ → Option (Record σ)

namespace Record

variable {σ α : Type}

/-- A field that has to be present. -/
def required (r : Record σ) (name : String) (read : σ → Option α) : Option α :=
  (r.fields.lookup name).bind read

/-- A field that has a default. -/
def defaulted (r : Record σ) (name : String) (default : α) (read : σ → Option α) : Option α :=
  match r.fields.lookup name with
  | none => some default
  | some value => read value

/-- A field that may be absent or null. A positional record has to name it all the same. -/
def optional [Source σ] (r : Record σ) (name : String) (read : σ → Option α) :
    Option (Option α) :=
  match r.fields.lookup name with
  | none => if r.positional then none else some none
  | some value => if Source.isNull value then some none else (read value).map some

end Record

end Tenancy
