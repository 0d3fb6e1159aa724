import Tenancy.Calendar.Date
import Tenancy.Record
import Tenancy.Tenant.Basic
import Tenancy.Text.Blank
import Tenancy.Text.Decimal

/-!
# Sequences of document numbers

A sequence numbers the documents of one kind, such as invoices with the prefix `INV`. It counts
for ever, or starts over each year or month; a counter belongs to a tenant, a prefix and a period.
-/

namespace Tenancy

/-- When a sequence starts over. -/
inductive Reset
  | never | yearly | monthly
  deriving DecidableEq, Repr, Inhabited

/-- A sequence: the prefix of its numbers, when it starts over, and the least width of the
counter. -/
structure Sequence where
  label : String
  reset : Reset
  padding : Nat
  deriving DecidableEq, Repr, Inhabited

/-- Why a sequence, or a counter of it, is not well formed. -/
inductive SequenceError
  | unknownReset (keyword : String)
  | emptyLabel
  | slashInLabel (label : String)
  | badTenant (tenant : TenantId)
  deriving DecidableEq, Repr

namespace SequenceError

/-- The text of a fault. -/
def message : SequenceError → String
  | .unknownReset keyword => "unknown reset period '" ++ keyword ++ "'"
  | .emptyLabel => "prefix must not be empty"
  | .slashInLabel label => "prefix '" ++ label ++ "' must not contain '/'"
  | .badTenant tenant => "tenant id '" ++ tenant ++ "' must be non-empty and free of '/'"

end SequenceError

/-! ### Starting over -/

namespace Reset

/-- Every choice. -/
def all : List Reset := [.never, .yearly, .monthly]

/-- The name of a choice. -/
def name : Reset → String
  | .never => "never"
  | .yearly => "yearly"
  | .monthly => "monthly"

/-- The choice with exactly this name. -/
def ofName? (name : String) : Option Reset :=
  all.find? (·.name = name)

/-- The choice that a text names, whatever white space is around it and whatever the case of its
letters. -/
def parse (s : String) : Except SequenceError Reset :=
  let keyword := Text.keyword s
  (ofName? keyword).elim (.error (.unknownReset keyword)) .ok

/-- The text of the period that a date falls into: the year in four places or more, and for a
monthly sequence the month in two. -/
def period? (r : Reset) (date : Date) : Option String :=
  match r with
  | .never => none
  | .yearly => some (String.ofList (Text.signedPadded 4 date.year))
  | .monthly =>
    some (String.ofList
      (Text.signedPadded 4 date.year ++ '-' :: Text.padded 2 date.month))

end Reset

/-! ### Numbers -/

namespace Sequence

/-- The width of a counter unless another is given. -/
def defaultPadding : Nat := 5

/-- A number: prefix, period if there is one, and counter, with hyphens between them. -/
def number (label : String) (period : Option String) (value padding : Nat) : String :=
  String.ofList <|
    label.toList ++ (match period with
      | some p => '-' :: p.toList
      | none => [])
    ++ '-' :: Text.padded padding value

/-- A number of a sequence. -/
def format (s : Sequence) (period : Option String) (value : Nat) : String :=
  number s.label period value s.padding

/-- A prefix must not be empty, and must not contain the slash that separates the parts of a
key. -/
def validate (s : Sequence) : Except SequenceError Unit :=
  if s.label = "" then .error .emptyLabel
  else if s.label.toList.contains '/' then .error (.slashInLabel s.label)
  else .ok ()

/-- Reads a sequence from a data format; it never starts over and has the default width unless the
record says otherwise. -/
def read? {σ : Type} [Source σ] (v : σ) : Option Sequence := do
  let r ← Source.record? ["prefix", "reset", "padding"] v
  return {
    label := ← r.required "prefix" Source.text?
    reset := ← r.defaulted "reset" .never fun v => (Source.choice? v).bind Reset.ofName?
    padding := ← r.defaulted "padding" defaultPadding (Source.natural? Text.maxWord) }

/-- The record of a sequence. -/
def toJson (s : Sequence) : Json :=
  .object
    [("prefix", .string s.label), ("reset", .string s.reset.name), ("padding", .ofNat s.padding)]

end Sequence

/-! ### Counters -/

/-- The identity of a counter. -/
structure CounterKey where
  tenant : TenantId
  label : String
  period : Option String
  deriving DecidableEq, Repr, Inhabited

namespace CounterKey

/-- The counter of a sequence for a tenant and a date. The sequence has to be valid, and the
tenant's identifier not empty and without slash. -/
def make (tenant : TenantId) (s : Sequence) (date : Date) : Except SequenceError CounterKey := do
  s.validate
  if tenant = "" ∨ tenant.toList.contains '/' then throw (.badTenant tenant)
  return ⟨tenant, s.label, s.reset.period? date⟩

/-- What all counters of a tenant start with. -/
def tenantScope (tenant : TenantId) : List Char :=
  tenant.toList ++ ['/']

/-- What all counters of a tenant with one prefix start with. -/
def seriesScope (k : CounterKey) : List Char :=
  tenantScope k.tenant ++ k.label.toList ++ ['/']

/-- The text under which a counter is kept: tenant, prefix and period, where a hyphen stands for
none. -/
def text (k : CounterKey) : String :=
  String.ofList (k.seriesScope ++ (k.period.getD "-").toList)

end CounterKey

end Tenancy
