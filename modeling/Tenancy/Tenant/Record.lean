import Tenancy.Json.Source
import Tenancy.Json.Writer
import Tenancy.Tenant.Basic

/-!
# Tenants as JSON records

The text in which the directory keeps a tenant, and the texts that it reads as one. Fields may
come in any order, the settings may be left out, and members with other names are passed over.
-/

namespace Tenancy.Tenant

/-- The names of the fields, in the order in which they are written. -/
def fieldNames : List String :=
  ["id", "slug", "display_name", "db_name", "db_host", "db_port", "status", "plan", "settings",
    "created_at", "updated_at"]

/-- The record of a tenant. -/
def toJson (t : Tenant) : Json :=
  .object
    [("id", .string t.id), ("slug", .string t.slug), ("display_name", .string t.displayName),
      ("db_name", .string t.database), ("db_host", .string t.host), ("db_port", .ofNat t.port),
      ("status", .string t.status.name), ("plan", .string t.plan.name),
      ("settings", .object t.settings), ("created_at", .ofNat t.createdAt),
      ("updated_at", .ofNat t.updatedAt)]

/-- The text of the record. -/
def text (t : Tenant) : String := t.toJson.text

/-- Reads settings. They stand inside the record, so they nest one level less deep. -/
def readSettings? (s : Json.Syntax) : Option (List (String × Json)) :=
  match s.toJson? (Json.depthLimit - 1) with
  | some (.object members) => some members
  | _ => none

/-- Reads the record of a tenant. -/
def ofSyntax? (s : Json.Syntax) : Option Tenant := do
  let r ← s.record? fieldNames
  let word := Json.Syntax.natural? Text.maxWord
  return {
    id := ← r.required "id" Json.Syntax.text?
    slug := ← r.required "slug" Json.Syntax.text?
    displayName := ← r.required "display_name" Json.Syntax.text?
    database := ← r.required "db_name" Json.Syntax.text?
    host := ← r.required "db_host" Json.Syntax.text?
    port := ← r.required "db_port" (Json.Syntax.natural? 65535)
    status := ← r.required "status" fun v => v.choice?.bind Status.ofName?
    plan := ← r.required "plan" fun v => v.choice?.bind Plan.ofName?
    settings := ← r.defaulted "settings" [] readSettings?
    createdAt := ← r.required "created_at" word
    updatedAt := ← r.required "updated_at" word }

/-- Reads a text that holds the record of a tenant. -/
def ofText? (s : String) : Option Tenant :=
  (Json.Syntax.ofText? s).bind ofSyntax?

end Tenancy.Tenant
