import Tenancy.Manager.Config
import Tenancy.Numbering.Strategy
import Tenancy.Proofs.Toml.Reading
import Tenancy.Settings.File

/-!
# Reading the settings that were written

The text of settings is read back as the same settings, and settings have a text unless one of
their numbers is above the greatest integer of a text: `text_round_trip`. So a manager and a
numbering that are set up from what was read are the same as before, or fail in the same way.
-/

namespace Tenancy

/-! ### Tables as records -/

namespace Toml

section Lookup

variable {α β : Type} (key name : String)

/-- What may be absent is found under its own name only. -/
lemma lookup_toList_map (f : α → β) (value : Option α) :
    (value.toList.map fun a => (name, f a)).lookup key =
      if key = name then value.map f else none := by
  cases value with
  | none => simp
  | some a =>
    by_cases h : key = name
    · simp [h]
    · simp [List.lookup_cons, beq_false_of_ne h, h]

@[simp] lemma lookup_pair? (scalar : α → Scalar) (value : Option α) :
    (pair? name scalar value).lookup key = if key = name then value.map scalar else none :=
  lookup_toList_map key name scalar value

lemma forall_pair? {scalar : α → Scalar} {value : Option α} {p : String × Scalar → Prop} :
    (∀ pair ∈ pair? name scalar value, p pair) ↔ ∀ a ∈ value, p (name, scalar a) := by
  cases value <;> simp [pair?]

lemma keys_pair? (scalar : α → Scalar) (value : Option α) :
    ((pair? name scalar value).map Prod.fst).Sublist [name] := by
  cases value <;> simp [pair?]

end Lookup

variable {name : String} {names : List String} {fields : List (String × Toml)}

/-- A table is a record of the names that its keys are among. -/
lemma record?_table (h : (fields.map Prod.fst).Sublist names) :
    Source.record? names (.table fields) = some ⟨fields, false⟩ := by
  have hfilter : fields.filter (names.contains ·.1) = fields := by
    rw [List.filter_eq_self]
    exact fun field hfield => List.contains_iff_mem.2 (h.subset (List.mem_map_of_mem hfield))
  change some (Record.mk (fields.filter (names.contains ·.1)) false) = _
  rw [hfilter]

/-- A field for what may be absent is read as it was written. -/
lemma optional_of_lookup {α : Type} {f : α → Toml} {read : Toml → Option α} {value : Option α}
    (h : fields.lookup name = value.map f) (hread : ∀ a ∈ value, read (f a) = some a) :
    (Record.mk fields false).optional name read = some value := by
  rw [Record.optional, h]
  cases value with
  | none => rfl
  | some a =>
    change (read (f a)).map some = some (some a)
    rw [hread a rfl, Option.map_some]

namespace Section

/-- Whether the keys of a table are among some names, in their order. -/
def KeysIn (s : Section) (names : List String) : Prop :=
  (s.pairs.map Prod.fst).Sublist names

/-- A table as a record. -/
def record (s : Section) : Record Toml :=
  ⟨s.pairs.map fun pair => (pair.1, pair.2.toToml), false⟩

variable {s : Section}

lemma KeysIn.wellFormed (h : s.KeysIn names) (hname : s.name = name)
    (hbare : ∀ key ∈ name :: names, IsBareKey key) (hnodup : names.Nodup) : s.WellFormed where
  name := hname ▸ hbare _ List.mem_cons_self
  keys pair hpair :=
    hbare pair.1 (List.mem_cons_of_mem _ (h.subset (List.mem_map_of_mem hpair)))
  nodup := h.nodup hnodup

lemma KeysIn.record? (h : s.KeysIn names) : Source.record? names s.toToml = some s.record :=
  record?_table (by simpa [List.map_map, Function.comp_def, KeysIn] using h)

/-- What stands under a key of a table is a field of its record. -/
lemma lookup_record (s : Section) (name : String) :
    s.record.fields.lookup name = (s.pairs.lookup name).map Scalar.toToml := by
  change (s.pairs.map fun pair => (pair.1, pair.2.toToml)).lookup name = _
  induction s.pairs with
  | nil => rfl
  | cons pair pairs ih =>
    rw [List.map_cons, List.lookup_cons, List.lookup_cons, ih]
    cases name == pair.1 <;> rfl

lemma lookup_record_of_map {α : Type} {scalar : α → Scalar} {value : Option α}
    (h : s.pairs.lookup name = value.map scalar) :
    s.record.fields.lookup name = value.map fun a => (scalar a).toToml := by
  rw [lookup_record, h, Option.map_map]
  rfl

lemma optional_string {value : Option String} (h : s.pairs.lookup name = value.map .string) :
    s.record.optional name Source.text? = some value :=
  optional_of_lookup (lookup_record_of_map h) fun _ _ => rfl

lemma optional_natural {limit : ℕ} {value : Option ℕ}
    (h : s.pairs.lookup name = value.map .natural) (hlimit : ∀ n ∈ value, n ≤ limit) :
    s.record.optional name (Source.natural? limit) = some value :=
  optional_of_lookup (lookup_record_of_map h) fun n hn => if_pos (hlimit n hn)

lemma required_string {value : String} (h : s.pairs.lookup name = some (.string value)) :
    s.record.required name Source.text? = some value := by
  rw [Record.required, lookup_record, h]
  rfl

end Section

end Toml

open Toml (Section keys_pair? forall_pair?)

/-! ### Sections -/

/-- The numbers of a section on pools. -/
def PoolSettings.naturals (p : PoolSettings) : List ℕ :=
  p.maxConnections.toList ++ p.minConnections.toList ++ p.maxPools.toList

/-- Whether the numbers of a section on pools are of their sizes. -/
structure PoolSettings.Sized (p : PoolSettings) : Prop where
  maxConnections : ∀ n ∈ p.maxConnections, n ≤ maxCount
  minConnections : ∀ n ∈ p.minConnections, n ≤ maxCount
  maxPools : ∀ n ∈ p.maxPools, n ≤ Text.maxWord

/-- Whether the number of a section on numbering is of its size. -/
structure NumberingSettings.Sized (n : NumberingSettings) : Prop where
  rangeSize : ∀ size ∈ n.rangeSize, size ≤ Text.maxWord

lemma DatabaseSettings.name_toSection (d : DatabaseSettings) :
    d.toSection.name = "database" := rfl

lemma DatabaseSettings.keysIn_toSection (d : DatabaseSettings) :
    d.toSection.KeysIn ["user", "password", "password_env", "ssl_mode"] := by
  simp only [Section.KeysIn, toSection, List.cons_append, List.map_cons, List.map_append]
  exact .cons_cons _ (((keys_pair? _ _ _).append (keys_pair? _ _ _)).append (keys_pair? _ _ _))

lemma DatabaseSettings.read?_toSection (d : DatabaseSettings) :
    DatabaseSettings.read? d.toSection.toToml = some d := by
  have huser : d.toSection.pairs.lookup "user" = some (.string d.user) := by
    simp [toSection]
  have hpassword : d.toSection.pairs.lookup "password" = d.password.map .string := by
    simp [toSection, List.lookup_cons, List.lookup_append]
  have hvariable : d.toSection.pairs.lookup "password_env" = d.passwordVariable.map .string := by
    simp [toSection, List.lookup_cons, List.lookup_append]
  have hmode : d.toSection.pairs.lookup "ssl_mode" = d.sslMode.map .string := by
    simp [toSection, List.lookup_cons, List.lookup_append]
  rw [read?, d.keysIn_toSection.record?]
  simp only [Option.bind_eq_bind, Option.bind_some, Section.required_string huser,
    Section.optional_string hpassword, Section.optional_string hvariable,
    Section.optional_string hmode]
  rfl

lemma DatabaseSettings.inRange_toSection (d : DatabaseSettings) : d.toSection.InRange := by
  simp only [Section.InRange, toSection, List.cons_append, List.forall_mem_cons,
    List.forall_mem_append, forall_pair?, Toml.Scalar.InRange]
  simp

lemma PoolSettings.name_toSection (p : PoolSettings) :
    p.toSection.name = "pool" := rfl

lemma PoolSettings.keysIn_toSection (p : PoolSettings) :
    p.toSection.KeysIn ["max_conns_per_tenant", "min_conns_per_tenant", "connect_timeout",
      "max_total_pools", "idle_timeout", "health_check_period"] := by
  simp only [Section.KeysIn, toSection, List.map_append]
  exact (((((keys_pair? _ _ _).append (keys_pair? _ _ _)).append (keys_pair? _ _ _)).append
    (keys_pair? _ _ _)).append (keys_pair? _ _ _)).append (keys_pair? _ _ _)

lemma PoolSettings.Sized.read?_toSection {p : PoolSettings} (h : p.Sized) :
    PoolSettings.read? p.toSection.toToml = some p := by
  have hmost : p.toSection.pairs.lookup "max_conns_per_tenant" =
      p.maxConnections.map .natural := by
    simp [toSection, List.lookup_append]
  have hleast : p.toSection.pairs.lookup "min_conns_per_tenant" =
      p.minConnections.map .natural := by
    simp [toSection, List.lookup_append]
  have hconnect : p.toSection.pairs.lookup "connect_timeout" = p.connectTimeout.map .string := by
    simp [toSection, List.lookup_append]
  have hpools : p.toSection.pairs.lookup "max_total_pools" = p.maxPools.map .natural := by
    simp [toSection, List.lookup_append]
  have hidle : p.toSection.pairs.lookup "idle_timeout" = p.idleTimeout.map .string := by
    simp [toSection, List.lookup_append]
  have hhealth : p.toSection.pairs.lookup "health_check_period" =
      p.healthPeriod.map .string := by
    simp [toSection, List.lookup_append]
  rw [read?, p.keysIn_toSection.record?]
  simp only [Option.bind_eq_bind, Option.bind_some,
    Section.optional_natural hmost h.maxConnections,
    Section.optional_natural hleast h.minConnections, Section.optional_string hconnect,
    Section.optional_natural hpools h.maxPools, Section.optional_string hidle,
    Section.optional_string hhealth]
  rfl

lemma PoolSettings.inRange_toSection (p : PoolSettings) :
    p.toSection.InRange ↔ ∀ n ∈ p.naturals, (n : ℤ) ≤ Toml.greatestInteger := by
  simp only [Section.InRange, toSection, naturals, List.forall_mem_append, forall_pair?,
    Toml.Scalar.InRange, Option.mem_toList]
  simp

lemma DirectorySettings.name_toSection (d : DirectorySettings) :
    d.toSection.name = "directory" := rfl

lemma DirectorySettings.keysIn_toSection (d : DirectorySettings) :
    d.toSection.KeysIn ["path"] :=
  keys_pair? _ _ _

lemma DirectorySettings.read?_toSection (d : DirectorySettings) :
    DirectorySettings.read? d.toSection.toToml = some d := by
  have hpath : d.toSection.pairs.lookup "path" = d.path.map .string := by
    simp [toSection]
  rw [read?, d.keysIn_toSection.record?]
  simp only [Option.bind_eq_bind, Option.bind_some, Section.optional_string hpath]
  rfl

lemma DirectorySettings.inRange_toSection (d : DirectorySettings) : d.toSection.InRange := by
  simp only [Section.InRange, toSection, forall_pair?, Toml.Scalar.InRange]
  simp

lemma NumberingSettings.name_toSection (n : NumberingSettings) :
    n.toSection.name = "numbering" := rfl

lemma NumberingSettings.keysIn_toSection (n : NumberingSettings) :
    n.toSection.KeysIn ["strategy", "range_size"] := by
  simp only [Section.KeysIn, toSection, List.map_append]
  exact (keys_pair? _ _ _).append (keys_pair? _ _ _)

lemma NumberingSettings.Sized.read?_toSection {n : NumberingSettings} (h : n.Sized) :
    NumberingSettings.read? n.toSection.toToml = some n := by
  have hstrategy : n.toSection.pairs.lookup "strategy" = n.strategy.map .string := by
    simp [toSection, List.lookup_append]
  have hsize : n.toSection.pairs.lookup "range_size" = n.rangeSize.map .natural := by
    simp [toSection, List.lookup_append]
  rw [read?, n.keysIn_toSection.record?]
  simp only [Option.bind_eq_bind, Option.bind_some, Section.optional_string hstrategy,
    Section.optional_natural hsize h.rangeSize]
  rfl

lemma NumberingSettings.inRange_toSection (n : NumberingSettings) :
    n.toSection.InRange ↔ ∀ size ∈ n.rangeSize.toList, (size : ℤ) ≤ Toml.greatestInteger := by
  simp only [Section.InRange, toSection, List.forall_mem_append, forall_pair?,
    Toml.Scalar.InRange, Option.mem_toList]
  simp

lemma LoggingSettings.name_toSection (l : LoggingSettings) :
    l.toSection.name = "logging" := rfl

lemma LoggingSettings.keysIn_toSection (l : LoggingSettings) :
    l.toSection.KeysIn ["filter", "format"] := by
  simp only [Section.KeysIn, toSection, List.map_append]
  exact (keys_pair? _ _ _).append (List.Sublist.refl _)

lemma LoggingSettings.inRange_toSection (l : LoggingSettings) : l.toSection.InRange := by
  simp only [Section.InRange, toSection, List.forall_mem_append, List.forall_mem_singleton,
    forall_pair?, Toml.Scalar.InRange]
  simp

lemma LogFormat.ofName?_name (f : LogFormat) : ofName? f.name = some f := by
  cases f <;> rfl

lemma LoggingSettings.read?_toSection (l : LoggingSettings) :
    LoggingSettings.read? l.toSection.toToml = some l := by
  have hfilter : l.toSection.pairs.lookup "filter" = l.filter.map .string := by
    simp [toSection, List.lookup_append, List.lookup_cons]
  have hformat : l.toSection.pairs.lookup "format" = some (.string l.format.name) := by
    simp [toSection, List.lookup_append]
  have hread : l.toSection.record.defaulted "format" .pretty
      (fun v => (Source.choice? v).bind LogFormat.ofName?) = some l.format := by
    rw [Record.defaulted, Section.lookup_record, hformat]
    exact l.format.ofName?_name
  rw [read?, l.keysIn_toSection.record?]
  simp only [Option.bind_eq_bind, Option.bind_some, Section.optional_string hfilter, hread]
  rfl

namespace Settings

/-- Whether all numbers of settings are of their sizes. -/
structure Sized (s : Settings) : Prop where
  pool : ∀ p ∈ s.pool, p.Sized
  numbering : ∀ n ∈ s.numbering, n.Sized

/-- The numbers of settings. -/
def naturals (s : Settings) : List ℕ :=
  s.poolOrNone.naturals ++ s.numberingOrNone.rangeSize.toList

section Present

variable {α : Type} {toSection : α → Section} {name : String}

/-- A section that may be absent has the name that all sections of its kind have. -/
lemma names_present (hname : ∀ a, (toSection a).name = name) (value : Option α) :
    ((value.map toSection).toList.map Section.name).Sublist [name] := by
  cases value <;> simp [hname]

lemma lookup_present (hname : ∀ a, (toSection a).name = name) (value : Option α) (key : String) :
    ((value.map toSection).toList.map fun t => (t.name, t.toToml)).lookup key =
      if key = name then value.map fun a => (toSection a).toToml else none := by
  rw [← Toml.lookup_toList_map]
  cases value <;> simp [hname]

end Present

lemma names_toSections (s : Settings) :
    (s.toSections.map Section.name).Sublist
      ["database", "pool", "directory", "numbering", "logging"] := by
  simp only [toSections, List.cons_append, List.map_cons, List.map_append]
  exact .cons_cons _ ((((names_present PoolSettings.name_toSection _).append
    (names_present DirectorySettings.name_toSection _)).append
    (names_present NumberingSettings.name_toSection _)).append
    (names_present LoggingSettings.name_toSection _))

/-- Every section has a bare name and bare keys, none of them twice. -/
lemma wellFormed_toSections (s : Settings) : ∀ t ∈ s.toSections, t.WellFormed := by
  intro t ht
  simp only [toSections, List.cons_append, List.mem_cons, List.mem_append, Option.mem_toList,
    Option.map_eq_some_iff] at ht
  rcases ht with rfl | ((⟨p, -, rfl⟩ | ⟨d, -, rfl⟩) | ⟨n, -, rfl⟩) | ⟨l, -, rfl⟩
  · exact s.database.keysIn_toSection.wellFormed s.database.name_toSection (by decide +kernel)
      (by decide)
  · exact p.keysIn_toSection.wellFormed p.name_toSection (by decide +kernel) (by decide)
  · exact d.keysIn_toSection.wellFormed d.name_toSection (by decide +kernel) (by decide)
  · exact n.keysIn_toSection.wellFormed n.name_toSection (by decide +kernel) (by decide)
  · exact l.keysIn_toSection.wellFormed l.name_toSection (by decide +kernel) (by decide)

/-- The tables of settings are the fields of a record. -/
def fields (s : Settings) : List (String × Toml) :=
  s.toSections.map fun t => (t.name, t.toToml)

/-- A section is found under its own name. -/
lemma lookup_fields (s : Settings) (key : String) :
    s.fields.lookup key =
      (if key = "database" then some s.database.toSection.toToml else none).or
        ((if key = "pool" then s.pool.map fun p => p.toSection.toToml else none).or
          ((if key = "directory" then s.directory.map fun d => d.toSection.toToml else none).or
            ((if key = "numbering" then s.numbering.map fun n => n.toSection.toToml else none).or
              (if key = "logging" then s.logging.map fun l => l.toSection.toToml else none)))) := by
  have hdatabase := lookup_present DatabaseSettings.name_toSection (some s.database) key
  simp only [Option.map_some, Option.toList_some] at hdatabase
  rw [fields, toSections, ← List.singleton_append]
  simp only [List.map_append, List.lookup_append, hdatabase,
    lookup_present PoolSettings.name_toSection, lookup_present DirectorySettings.name_toSection,
    lookup_present NumberingSettings.name_toSection,
    lookup_present LoggingSettings.name_toSection, Option.or_assoc]

/-- The sections are read back from their tables. -/
lemma Sized.read?_fields {s : Settings} (h : s.Sized) : read? (Toml.table s.fields) = some s := by
  have hrecord : Source.record? ["database", "pool", "directory", "numbering", "logging"]
      (Toml.table s.fields) = some ⟨s.fields, false⟩ :=
    Toml.record?_table (by simpa [fields, List.map_map, Function.comp_def] using s.names_toSections)
  have hdatabase : (Record.mk s.fields false).required "database" DatabaseSettings.read? =
      some s.database := by
    simp [Record.required, lookup_fields, s.database.read?_toSection]
  have hpool : (Record.mk s.fields false).optional "pool" PoolSettings.read? = some s.pool :=
    Toml.optional_of_lookup (by simp [lookup_fields]) fun p hp => (h.pool p hp).read?_toSection
  have hdirectory : (Record.mk s.fields false).optional "directory" DirectorySettings.read? =
      some s.directory :=
    Toml.optional_of_lookup (by simp [lookup_fields]) fun d _ => d.read?_toSection
  have hnumbering : (Record.mk s.fields false).optional "numbering" NumberingSettings.read? =
      some s.numbering :=
    Toml.optional_of_lookup (by simp [lookup_fields]) fun n hn =>
      (h.numbering n hn).read?_toSection
  have hlogging : (Record.mk s.fields false).optional "logging" LoggingSettings.read? =
      some s.logging :=
    Toml.optional_of_lookup (by simp [lookup_fields]) fun l _ => l.read?_toSection
  rw [read?, hrecord]
  simp only [Option.bind_eq_bind, Option.bind_some, hdatabase, hpool, hdirectory, hnumbering,
    hlogging]
  rfl

/-! ### The whole text -/

/-- All sections can be written just if no number is too great. -/
lemma forall_inRange_iff (s : Settings) :
    (∀ t ∈ s.toSections, t.InRange) ↔ ∀ n ∈ s.naturals, (n : ℤ) ≤ Toml.greatestInteger := by
  have hpool : (∀ t ∈ (s.pool.map PoolSettings.toSection).toList, t.InRange) ↔
      ∀ n ∈ s.poolOrNone.naturals, (n : ℤ) ≤ Toml.greatestInteger := by
    rw [poolOrNone]
    cases s.pool with
    | none => simp [PoolSettings.none, PoolSettings.naturals]
    | some p => simpa using p.inRange_toSection
  have hnumbering : (∀ t ∈ (s.numbering.map NumberingSettings.toSection).toList, t.InRange) ↔
      ∀ n ∈ s.numberingOrNone.rangeSize.toList, (n : ℤ) ≤ Toml.greatestInteger := by
    rw [numberingOrNone]
    cases s.numbering with
    | none => simp [NumberingSettings.none]
    | some n => simpa using n.inRange_toSection
  have hdirectory : ∀ t ∈ (s.directory.map DirectorySettings.toSection).toList, t.InRange := by
    cases s.directory with
    | none => simp
    | some d => simpa using d.inRange_toSection
  have hlogging : ∀ t ∈ (s.logging.map LoggingSettings.toSection).toList, t.InRange := by
    cases s.logging with
    | none => simp
    | some l => simpa using l.inRange_toSection
  simp only [toSections, naturals, List.cons_append, List.forall_mem_cons, List.forall_mem_append,
    hpool, hnumbering, iff_true_intro hdirectory, iff_true_intro hlogging,
    s.database.inRange_toSection, true_and, and_true]

/-- The text of settings is read back as those settings. -/
lemma Sized.ofText?_text {s : Settings} (h : s.Sized) {text : String}
    (htext : s.text? = some text) : ofText? text = some s := by
  have hnodup : (s.toSections.map Section.name).Nodup := s.names_toSections.nodup (by decide)
  rw [ofText?, Toml.ofText?_write? s.wellFormed_toSections hnodup htext]
  exact h.read?_fields

/-- A file with the text of settings holds those settings. -/
theorem Sized.ofFile_text {s : Settings} (h : s.Sized) {text : String}
    (htext : s.text? = some text) : ofFile (some text.toUTF8) = .ok s := by
  have hvalid : text.toUTF8.IsValidUTF8 := text.isValidUTF8
  have hdecode : String.fromUTF8? text.toUTF8 = some text := by
    rw [String.fromUTF8?, dif_pos hvalid]
    rfl
  simp only [ofFile, hdecode, h.ofText?_text htext]
  rfl

/-- The text of settings is read back as those settings, so that a manager and a numbering are set
up from them as before, whatever the environment holds; and settings lack a text just if one of
their numbers is too great for one. -/
theorem text_round_trip (s : Settings) (h : s.Sized) :
    (∀ text, s.text? = some text → ∃ read, ofText? text = some read ∧ read = s ∧
      (∀ env, Manager.Config.ofSettings read env = Manager.Config.ofSettings s env) ∧
      Strategy.ofSettings read.numberingOrNone = Strategy.ofSettings s.numberingOrNone) ∧
    (s.text? = none ↔ ∃ n ∈ s.naturals, Toml.greatestInteger < n) := by
  constructor
  · intro text htext
    exact ⟨s, h.ofText?_text htext, rfl, fun _ => rfl, rfl⟩
  · rw [text?, Toml.write?_eq, ite_eq_right_iff, forall_inRange_iff]
    simp

/-- Settings with quotation marks, escapes, line feeds and a section without values. -/
def motley : Settings where
  database := ⟨"op", some "it's \"\"\"\\\n\"\"", none, some "\x01é'"⟩
  pool := some .none
  directory := some ⟨some "C:\\grid\\'a'.redb"⟩
  numbering := some ⟨some "strict\n\"", some 9223372036854775807⟩
  logging := none

/-- The lines of the text of those settings. -/
def motleyLines : List String :=
  ["[database]", "user = \"op\"", "password = '''", "it's \"\"\"\\", "\"\"'''",
    "ssl_mode = \"\\u0001é'\"", "", "[pool]", "", "[directory]",
    "path = '''C:\\grid\\'a'.redb'''", "", "[numbering]", "strategy = \"\"\"", "strict", "\"\"\"\"",
    "range_size = 9223372036854775807"]

/-- The text of those settings. -/
def motleyText : String :=
  String.ofList (motleyLines.flatMap fun line => line.toList ++ ['\n'])

theorem text_round_trip_motley :
    motley.Sized ∧ motley.text? = some motleyText ∧ ofText? motleyText = some motley ∧
      text? { motley with numbering := some ⟨none, some (2 ^ 63)⟩ } = none := by
  have hsized : ∀ strategy size, size ≤ Text.maxWord →
      Sized { motley with numbering := some ⟨strategy, some size⟩ } := by
    intro strategy size hsize
    constructor
    · rintro p ⟨⟩
      exact ⟨by simp [PoolSettings.none], by simp [PoolSettings.none], by simp [PoolSettings.none]⟩
    · rintro n ⟨⟩
      exact ⟨by simpa using hsize⟩
  have hmotley : motley.Sized := hsized (some "strict\n\"") 9223372036854775807 (by decide)
  have htext : motley.text? = some motleyText := by
    rw [text?, Toml.write?_eq, motleyText]
    have hchars : Toml.sectionsText motley.toSections = motleyLines.flatMap fun line =>
        line.toList ++ ['\n'] := by decide +kernel
    rw [if_pos ((forall_inRange_iff motley).2 (by decide)), hchars]
  obtain ⟨read, hread, heq, -⟩ := (text_round_trip motley hmotley).1 motleyText htext
  have hnone := (text_round_trip _ (hsized none (2 ^ 63) (by decide))).2
  exact ⟨hmotley, htext, heq ▸ hread, hnone.2 ⟨2 ^ 63, by decide, by decide⟩⟩

end Settings

end Tenancy
