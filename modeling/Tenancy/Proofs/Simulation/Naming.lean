import Tenancy.Proofs.Dsn.Database
import Tenancy.Proofs.Dsn.Reading
import Tenancy.Proofs.Simulation.Calls

/-!
# The names of databases

A backend in memory opens a tenant's database under the name that stands in the connection string.
This is the encoded name of the database, whatever the user, the password, the mode, the host and
the port: `database_read_back`. So two tenants have a name, and what the backend does with pings,
in common only if they have their database in common.
-/

namespace Tenancy

open Manager (Config TaskId)

namespace Simulation

/-- Connections to the tenant's database are opened, by some task, under a name. -/
def OpensUnder (t : Tenant) (name : String) : Prop :=
  ∃ (s : Simulation) (task : TaskId) (count : ℕ),
    (s.openFor task t).2 = some (.opened (.ok (name, count)))

variable {t t' : Tenant} {s : Simulation} {task : TaskId} {name name' dsn : String} {count : ℕ}

/-- The name under which the database of a tenant is opened. -/
def nameOf (t : Tenant) : String := String.ofList (Dsn.encode t.database.toList)

lemma nameOf_inj : nameOf t = nameOf t' ↔ t.database = t'.database := by
  rw [nameOf, nameOf, String.ofList_inj, Dsn.encode_injective.eq_iff, String.toList_inj]

lemma database_addressOf (h : '/' ∉ t.host.toList) (config : Config) :
    Backend.database (config.addressOf t) =
      if t.database = "" then .error (.noDatabase (config.addressOf t)) else .ok (nameOf t) := by
  have hdatabase : Dsn.database? (config.addressOf t) =
      if t.database = "" then none else some (nameOf t) := Dsn.database?_build_eq h _ _ _
  rw [Backend.database, hdatabase]
  split_ifs <;> rfl

lemma openTenant_eq (h : '/' ∉ t.host.toList) (b : Backend) (config : Config) :
    b.openTenant config t =
      if t.database = "" then .error (.noDatabase (config.addressOf t))
      else b.opened (nameOf t) config.minConnections := by
  rw [Backend.openTenant, database_addressOf h]
  split_ifs <;> rfl

lemma opened_ne_noDatabase (b : Backend) (database : String) (least : ℕ) :
    b.opened database least ≠ .error (.noDatabase dsn) := by
  unfold Backend.opened
  split_ifs <;> simp

lemma opened_eq_ok (b : Backend) {database : String} {least : ℕ}
    (hopened : b.opened database least = .ok (name, count)) : name = database := by
  unfold Backend.opened at hopened
  split_ifs at hopened
  cases hopened
  rfl

/-- A tenant is refused for its connection string exactly if it has no database. -/
lemma openFor_eq_noDatabase_iff (h : '/' ∉ t.host.toList) :
    (s.openFor task t).2 = some (.opened (.error (.noDatabase dsn))) ↔
      t.database = "" ∧ dsn = s.manager.config.addressOf t := by
  constructor
  · intro hrefused
    have hanswer := Manager.Answer.opened.inj (openFor_answer hrefused)
    rw [openTenant_eq h] at hanswer
    split_ifs at hanswer with hempty
    · exact ⟨hempty, OpenFault.noDatabase.inj (Except.error.inj hanswer)⟩
    · exact absurd hanswer.symm (opened_ne_noDatabase _ _ _)
  · rintro ⟨hempty, rfl⟩
    have hdatabase := database_addressOf h s.manager.config
    rw [if_pos hempty] at hdatabase
    simp only [Config.addressOf] at hdatabase ⊢
    simp only [openFor, hdatabase]

/-- Connections to a tenant's database are opened under the encoded name and under no other. -/
lemma opensUnder_iff (h : '/' ∉ t.host.toList) :
    OpensUnder t name ↔ t.database ≠ "" ∧ name = nameOf t := by
  constructor
  · rintro ⟨s, task, count, hopened⟩
    have hanswer := Manager.Answer.opened.inj (openFor_answer hopened)
    rw [openTenant_eq h] at hanswer
    split_ifs at hanswer with hempty
    exact ⟨hempty, opened_eq_ok _ hanswer.symm⟩
  · rintro ⟨hne, rfl⟩
    let s : Simulation := .new (.new "" "") (.of .empty) 0
    have hdatabase := Dsn.database?_build_eq h s.manager.config.user s.manager.config.password
      s.manager.config.sslMode
    rw [if_neg hne] at hdatabase
    refine ⟨s, 0, s.manager.config.minConnections, ?_⟩
    rw [openFor_of_idle rfl hdatabase]
    rfl

/-- The databases of two tenants are told apart by what they do with pings, unless they have the
same name. -/
lemma forall_behavior_eq_iff :
    (∀ b : Backend, b.behavior name = b.behavior name') ↔ name = name' := by
  constructor
  · intro h
    by_contra hne
    have hb := h { Backend.new with behaviors := (∅ : Assoc String Behavior).insert name .failing }
    simp [Backend.behavior, Assoc.get?_insert, Ne.symm hne] at hb
  · rintro rfl b
    rfl

/-- The database of a tenant whose host has no slash is opened under its encoded name, whatever else
the connection string is built from, and exactly a tenant without a database is refused for its
string. So two tenants have the name, or what is done with pings under it, in common exactly if they
have their database in common. In every text the search for a name cuts between characters only, and
finds a name exactly if the text names a database. -/
theorem database_read_back (t : Tenant) (h : '/' ∉ t.host.toList) :
    (∀ user password mode, Dsn.database? (Dsn.build t user password mode) =
      if t.database = "" then none else some (nameOf t)) ∧
    (∀ (s : Simulation) task dsn,
      (s.openFor task t).2 = some (.opened (.error (.noDatabase dsn))) ↔
        t.database = "" ∧ dsn = s.manager.config.addressOf t) ∧
    (∀ name, OpensUnder t name ↔ t.database ≠ "" ∧ name = nameOf t) ∧
    (∀ t' : Tenant, '/' ∉ t'.host.toList → ∀ name name', OpensUnder t name → OpensUnder t' name' →
      (name = name' ↔ t.database = t'.database) ∧
      ((∀ b : Backend, b.behavior name = b.behavior name') ↔ t.database = t'.database)) ∧
    (∀ dsn, Dsn.searchBytes dsn = some (Dsn.database? dsn)) ∧
    ∀ dsn name, Dsn.database? dsn = some name ↔ Dsn.Names dsn name := by
  refine ⟨Dsn.database?_build_eq h, fun s task dsn => openFor_eq_noDatabase_iff h,
    fun name => opensUnder_iff h, ?_, Dsn.searchBytes_eq, fun dsn name => Dsn.database?_eq_some_iff⟩
  intro t' h' name name' hopens hopens'
  obtain ⟨-, rfl⟩ := (opensUnder_iff h).1 hopens
  obtain ⟨-, rfl⟩ := (opensUnder_iff h').1 hopens'
  exact ⟨nameOf_inj, forall_behavior_eq_iff.trans nameOf_inj⟩

/-- Delimiters in the credentials and in the name of a database do not cut the name, and another
database on the same host is opened under another name. -/
theorem database_read_back_delimiters :
    '/' ∉ Dsn.delimiters.host.toList ∧
      Dsn.database? (Dsn.build Dsn.delimiters "a/b?c" "p@ss:/x?y://z" .verifyFull) =
        some "a%2Fb%3Fc%23d%252F" ∧
      ¬ OpensUnder { Dsn.delimiters with database := "" } "" ∧
      OpensUnder Dsn.delimiters "a%2Fb%3Fc%23d%252F" ∧
      ¬ OpensUnder { Dsn.delimiters with database := "a" } "a%2Fb%3Fc%23d%252F" := by
  have h : '/' ∉ Dsn.delimiters.host.toList := by decide
  have hname : nameOf Dsn.delimiters = "a%2Fb%3Fc%23d%252F" := by decide
  obtain ⟨hread, -, hopens, hshared, -⟩ := database_read_back Dsn.delimiters h
  have hopened : OpensUnder Dsn.delimiters "a%2Fb%3Fc%23d%252F" :=
    (hopens _).2 ⟨by decide, hname.symm⟩
  refine ⟨h, ?_, fun hempty => ?_, hopened, fun hother => ?_⟩
  · rw [hread, if_neg (by decide), hname]
  · exact (((database_read_back { Dsn.delimiters with database := "" } h).2.2.1 "").1 hempty).1 rfl
  · have hsame := (hshared { Dsn.delimiters with database := "a" } h _ _ hopened hother).1.1 rfl
    exact absurd hsame (by decide)

end Simulation

end Tenancy
