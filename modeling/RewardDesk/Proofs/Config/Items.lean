import RewardDesk.Proofs.Config.Layers
import RewardDesk.Proofs.Outcome

/-!
# The single settings of the configuration

The configuration in the order of its single settings (`AppConfig.Item`): where each of them stands,
and how it is read. Whatever way the configuration is read from settings, each of its own is read
from what is found at its path, and is as it stands in the defaults if nothing is found there
(`AppConfig.Item.read_of_ofSetting`).
-/

namespace RewardDesk

/-! ## Single settings

The configuration is a record of records. Taken apart into single settings it can be spoken of
without going through its sections each time. -/

/-- A single setting of the configuration. -/
inductive AppConfig.Item where
  | serviceName | environment
  | host | port | requestTimeout
  | url | maxConnections | minConnections | connectTimeout | idleTimeout | runMigrations
  | backend
  | observedName | logLevel | jsonLogs | metricsEnabled | metricsPort
  deriving DecidableEq

namespace AppConfig.Item

/-- The names that lead to a setting. -/
def path : Item → List String
  | serviceName => ["service_name"]
  | environment => ["environment"]
  | host => ["server", "host"]
  | port => ["server", "port"]
  | requestTimeout => ["server", "request_timeout_seconds"]
  | url => ["database", "url"]
  | maxConnections => ["database", "max_connections"]
  | minConnections => ["database", "min_connections"]
  | connectTimeout => ["database", "connect_timeout_seconds"]
  | idleTimeout => ["database", "idle_timeout_seconds"]
  | runMigrations => ["database", "run_migrations"]
  | backend => ["storage", "backend"]
  | observedName => ["observability", "service_name"]
  | logLevel => ["observability", "log_level"]
  | jsonLogs => ["observability", "json_logs"]
  | metricsEnabled => ["observability", "metrics_enabled"]
  | metricsPort => ["observability", "metrics_port"]

/-- The type of a setting. -/
def Value : Item → Type
  | serviceName | environment | host | url | observedName | logLevel => String
  | port | metricsPort => UInt16
  | maxConnections | minConnections => UInt32
  | requestTimeout | connectTimeout | idleTimeout => UInt64
  | runMigrations | jsonLogs | metricsEnabled => Bool
  | backend => Backend

/-- The setting in a configuration. -/
def value : (i : Item) → AppConfig → i.Value
  | serviceName, c => c.serviceName
  | environment, c => c.environment
  | host, c => c.server.host
  | port, c => c.server.port
  | requestTimeout, c => c.server.requestTimeout
  | url, c => c.database.url
  | maxConnections, c => c.database.maxConnections
  | minConnections, c => c.database.minConnections
  | connectTimeout, c => c.database.connectTimeout
  | idleTimeout, c => c.database.idleTimeout
  | runMigrations, c => c.database.runMigrations
  | backend, c => c.storage.backend
  | observedName, c => c.observability.serviceName
  | logLevel, c => c.observability.logLevel
  | jsonLogs, c => c.observability.jsonLogs
  | metricsEnabled, c => c.observability.metricsEnabled
  | metricsPort, c => c.observability.metricsPort

end AppConfig.Item

namespace Setting

def isTable : Setting → Bool
  | .table _ => true
  | _ => false

def asText (s : Setting) : Except Misfit String := converted s.toText?

def asBool (s : Setting) : Except Misfit Bool := converted s.toBool?

/-- A count up to a bound. -/
def asCount {α : Type} (bound : Nat) (ofNat : Nat → α) (s : Setting) : Except Misfit α :=
  converted ((s.toNat? bound).map ofNat)

end Setting

/-- How a setting is read from what a source says. -/
def AppConfig.Item.read : (i : Item) → Setting → Except Misfit i.Value
  | serviceName | environment | host | url | observedName | logLevel => Setting.asText
  | port | metricsPort => Setting.asCount (Nat.pow 2 16 - 1) UInt16.ofNat
  | maxConnections | minConnections => Setting.asCount (Nat.pow 2 32 - 1) UInt32.ofNat
  | requestTimeout | connectTimeout | idleTimeout =>
    Setting.asCount (Nat.pow 2 64 - 1) UInt64.ofNat
  | runMigrations | jsonLogs | metricsEnabled => Setting.asBool
  | backend => Backend.ofSetting

/-! ## How settings are read

A setting is read by the type that it has, and a section is read field by field from a table. Every
field that the table does not have is taken from the defaults. -/

namespace Setting

theorem plain_converted {α : Type} {f : Setting → Option α} (hlist : ∀ items, f (.list items) = none)
    (htable : ∀ entries, f (.table entries) = none) : Plain fun s => converted (f s) where
  list items a := by
    rw [hlist]
    exact nofun
  table {entries a} h := by
    rw [htable] at h
    exact absurd h nofun

theorem plain_asText : Plain asText := plain_converted (fun _ => rfl) fun _ => rfl

theorem plain_asBool : Plain asBool := plain_converted (fun _ => rfl) fun _ => rfl

theorem plain_asCount {α : Type} (bound : Nat) (ofNat : Nat → α) : Plain (asCount bound ofNat) :=
  plain_converted (fun _ => rfl) fun _ => rfl

/-- The field of a table, or its default. -/
theorem read_table {α : Type} (entries : List (String × Setting)) (position : Nat) (name : String)
    (default : α) (convert : Setting → Except Misfit α) :
    (table entries).read position name default convert =
      (Keyed.get? name entries).elim (.ok default) convert := by
  rw [read, field, ok_bind]
  cases Keyed.get? name entries with
  | none => rfl
  | some s => rfl

end Setting

theorem Backend.plain_ofSetting : Setting.Plain Backend.ofSetting where
  list items a := nofun
  table {entries a} h := by
    match entries with
    | [] => exact absurd h nofun
    | [(name, value)] => exact ⟨name, value, rfl, fun _ => h⟩
    | _ :: _ :: _ => exact absurd h nofun

theorem AppConfig.Item.plain_read (i : Item) : Setting.Plain i.read := by
  cases i with
  | backend => exact Backend.plain_ofSetting
  | serviceName | environment | host | url | observedName | logLevel => exact Setting.plain_asText
  | runMigrations | jsonLogs | metricsEnabled => exact Setting.plain_asBool
  | _ => exact Setting.plain_asCount _ _

/-! ### Sections

What the fields of a section are when it is read from a table. -/

section
variable {entries : List (String × Setting)}

theorem ServerConfig.fields_of_ofSetting {c : ServerConfig} (h : ofSetting (.table entries) = .ok c) :
    (Keyed.get? "host" entries).elim (.ok standard.host) Setting.asText = .ok c.host ∧
    (Keyed.get? "port" entries).elim (.ok standard.port)
      (Setting.asCount (Nat.pow 2 16 - 1) UInt16.ofNat) = .ok c.port ∧
    (Keyed.get? "request_timeout_seconds" entries).elim (.ok standard.requestTimeout)
      (Setting.asCount (Nat.pow 2 64 - 1) UInt64.ofNat) = .ok c.requestTimeout := by
  simp only [ofSetting, Setting.readText, Setting.readUInt16, Setting.readUInt64,
    Setting.read_table, bind_eq_ok] at h
  obtain ⟨host, hhost, port, hport, timeout, htimeout, hc⟩ := h
  obtain rfl := Except.ok.inj hc
  exact ⟨hhost, hport, htimeout⟩

theorem DatabaseConfig.fields_of_ofSetting {c : DatabaseConfig}
    (h : ofSetting (.table entries) = .ok c) :
    (Keyed.get? "url" entries).elim (.ok standard.url) Setting.asText = .ok c.url ∧
    (Keyed.get? "max_connections" entries).elim (.ok standard.maxConnections)
      (Setting.asCount (Nat.pow 2 32 - 1) UInt32.ofNat) = .ok c.maxConnections ∧
    (Keyed.get? "min_connections" entries).elim (.ok standard.minConnections)
      (Setting.asCount (Nat.pow 2 32 - 1) UInt32.ofNat) = .ok c.minConnections ∧
    (Keyed.get? "connect_timeout_seconds" entries).elim (.ok standard.connectTimeout)
      (Setting.asCount (Nat.pow 2 64 - 1) UInt64.ofNat) = .ok c.connectTimeout ∧
    (Keyed.get? "idle_timeout_seconds" entries).elim (.ok standard.idleTimeout)
      (Setting.asCount (Nat.pow 2 64 - 1) UInt64.ofNat) = .ok c.idleTimeout ∧
    (Keyed.get? "run_migrations" entries).elim (.ok standard.runMigrations) Setting.asBool =
      .ok c.runMigrations := by
  simp only [ofSetting, Setting.readText, Setting.readUInt32, Setting.readUInt64, Setting.readBool,
    Setting.read_table, bind_eq_ok] at h
  obtain ⟨url, hurl, most, hmost, least, hleast, connect, hconnect, idle, hidle, migrate, hmigrate,
    hc⟩ := h
  obtain rfl := Except.ok.inj hc
  exact ⟨hurl, hmost, hleast, hconnect, hidle, hmigrate⟩

theorem StorageConfig.field_of_ofSetting {c : StorageConfig}
    (h : ofSetting (.table entries) = .ok c) :
    (Keyed.get? "backend" entries).elim (.ok standard.backend) Backend.ofSetting = .ok c.backend := by
  simp only [ofSetting, Setting.read_table, bind_eq_ok] at h
  obtain ⟨backend, hbackend, hc⟩ := h
  obtain rfl := Except.ok.inj hc
  exact hbackend

theorem ObservabilityConfig.fields_of_ofSetting {c : ObservabilityConfig}
    (h : ofSetting (.table entries) = .ok c) :
    (Keyed.get? "service_name" entries).elim (.ok standard.serviceName) Setting.asText =
      .ok c.serviceName ∧
    (Keyed.get? "log_level" entries).elim (.ok standard.logLevel) Setting.asText = .ok c.logLevel ∧
    (Keyed.get? "json_logs" entries).elim (.ok standard.jsonLogs) Setting.asBool = .ok c.jsonLogs ∧
    (Keyed.get? "metrics_enabled" entries).elim (.ok standard.metricsEnabled) Setting.asBool =
      .ok c.metricsEnabled ∧
    (Keyed.get? "metrics_port" entries).elim (.ok standard.metricsPort)
      (Setting.asCount (Nat.pow 2 16 - 1) UInt16.ofNat) = .ok c.metricsPort := by
  simp only [ofSetting, Setting.readText, Setting.readUInt16, Setting.readBool, Setting.read_table,
    bind_eq_ok] at h
  obtain ⟨name, hname, level, hlevel, json, hjson, enabled, henabled, port, hport, hc⟩ := h
  obtain rfl := Except.ok.inj hc
  exact ⟨hname, hlevel, hjson, henabled, hport⟩

theorem AppConfig.fields_of_ofSetting {c : AppConfig} (h : ofSetting (.table entries) = .ok c) :
    (Keyed.get? "service_name" entries).elim (.ok standard.serviceName) Setting.asText =
      .ok c.serviceName ∧
    (Keyed.get? "environment" entries).elim (.ok standard.environment) Setting.asText =
      .ok c.environment ∧
    (Keyed.get? "server" entries).elim (.ok standard.server) ServerConfig.ofSetting =
      .ok c.server ∧
    (Keyed.get? "database" entries).elim (.ok standard.database) DatabaseConfig.ofSetting =
      .ok c.database ∧
    (Keyed.get? "storage" entries).elim (.ok standard.storage) StorageConfig.ofSetting =
      .ok c.storage ∧
    (Keyed.get? "observability" entries).elim (.ok standard.observability)
      ObservabilityConfig.ofSetting = .ok c.observability := by
  simp only [ofSetting, Setting.readText, Setting.read_table, bind_eq_ok] at h
  obtain ⟨name, hname, environment, henvironment, server, hserver, database, hdatabase, storage,
    hstorage, observability, hobservability, hc⟩ := h
  obtain rfl := Except.ok.inj hc
  exact ⟨hname, henvironment, hserver, hdatabase, hstorage, hobservability⟩

end

/-- The field of a section, if the section is a table or is not there. -/
theorem Setting.at?_of_section {γ α : Type} {s : Setting} {outer inner : String}
    {ofSetting : Setting → Except Misfit γ} {standard c : γ} {g : γ → α}
    {convert : Setting → Except Misfit α}
    (htable : ∀ t, s.at? [outer] = some t → ∃ entries, t = .table entries)
    (hsection : (Keyed.get? outer s.entries).elim (.ok standard) ofSetting = .ok c)
    (hfield : ∀ entries, ofSetting (.table entries) = .ok c →
      (Keyed.get? inner entries).elim (.ok (g standard)) convert = .ok (g c)) :
    (s.at? [outer, inner]).elim (.ok (g standard)) convert = .ok (g c) := by
  rw [at?_singleton] at htable
  rw [at?_pair]
  cases hfound : Keyed.get? outer s.entries with
  | none =>
    rw [hfound] at hsection
    obtain rfl := Except.ok.inj hsection
    rfl
  | some t =>
    rw [hfound] at hsection
    obtain ⟨entries, rfl⟩ := htable t hfound
    exact hfield entries hsection

namespace AppConfig

open Setting (at?_of_section)

/-- The sections of the configuration. -/
def sections : List String := ["server", "database", "storage", "observability"]

/-- What is read at the path of a setting is the setting. -/
theorem Item.read_of_ofSetting {entries : List (String × Setting)} {c : AppConfig}
    (h : ofSetting (.table entries) = .ok c)
    (htables : ∀ outer ∈ sections, ∀ t, (Setting.table entries).at? [outer] = some t →
      ∃ inner, t = .table inner) (i : Item) :
    ((Setting.table entries).at? i.path).elim (.ok (i.value standard)) i.read =
      .ok (i.value c) := by
  obtain ⟨hname, henvironment, hserver, hdatabase, hstorage, hobservability⟩ := fields_of_ofSetting h
  have server := htables "server" (by decide)
  have database := htables "database" (by decide)
  have storage := htables "storage" (by decide)
  have observability := htables "observability" (by decide)
  cases i with
  | serviceName =>
    rw [path, Setting.at?_singleton]
    exact hname
  | environment =>
    rw [path, Setting.at?_singleton]
    exact henvironment
  | host =>
    exact at?_of_section (g := ServerConfig.host) server hserver fun _ h =>
      (ServerConfig.fields_of_ofSetting h).1
  | port =>
    exact at?_of_section (g := ServerConfig.port) server hserver fun _ h =>
      (ServerConfig.fields_of_ofSetting h).2.1
  | requestTimeout =>
    exact at?_of_section (g := ServerConfig.requestTimeout) server hserver fun _ h =>
      (ServerConfig.fields_of_ofSetting h).2.2
  | url =>
    exact at?_of_section (g := DatabaseConfig.url) database hdatabase fun _ h =>
      (DatabaseConfig.fields_of_ofSetting h).1
  | maxConnections =>
    exact at?_of_section (g := DatabaseConfig.maxConnections) database hdatabase fun _ h =>
      (DatabaseConfig.fields_of_ofSetting h).2.1
  | minConnections =>
    exact at?_of_section (g := DatabaseConfig.minConnections) database hdatabase fun _ h =>
      (DatabaseConfig.fields_of_ofSetting h).2.2.1
  | connectTimeout =>
    exact at?_of_section (g := DatabaseConfig.connectTimeout) database hdatabase fun _ h =>
      (DatabaseConfig.fields_of_ofSetting h).2.2.2.1
  | idleTimeout =>
    exact at?_of_section (g := DatabaseConfig.idleTimeout) database hdatabase fun _ h =>
      (DatabaseConfig.fields_of_ofSetting h).2.2.2.2.1
  | runMigrations =>
    exact at?_of_section (g := DatabaseConfig.runMigrations) database hdatabase fun _ h =>
      (DatabaseConfig.fields_of_ofSetting h).2.2.2.2.2
  | backend =>
    exact at?_of_section (g := StorageConfig.backend) storage hstorage fun _ h =>
      StorageConfig.field_of_ofSetting h
  | observedName =>
    exact at?_of_section (g := ObservabilityConfig.serviceName) observability hobservability
      fun _ h => (ObservabilityConfig.fields_of_ofSetting h).1
  | logLevel =>
    exact at?_of_section (g := ObservabilityConfig.logLevel) observability hobservability fun _ h =>
      (ObservabilityConfig.fields_of_ofSetting h).2.1
  | jsonLogs =>
    exact at?_of_section (g := ObservabilityConfig.jsonLogs) observability hobservability fun _ h =>
      (ObservabilityConfig.fields_of_ofSetting h).2.2.1
  | metricsEnabled =>
    exact at?_of_section (g := ObservabilityConfig.metricsEnabled) observability hobservability
      fun _ h => (ObservabilityConfig.fields_of_ofSetting h).2.2.2.1
  | metricsPort =>
    exact at?_of_section (g := ObservabilityConfig.metricsPort) observability hobservability
      fun _ h => (ObservabilityConfig.fields_of_ofSetting h).2.2.2.2

/-- Does an entry leave all sections tables? -/
def KeepsSections (e : String × Setting) : Prop :=
  ∀ outer ∈ sections, ((Setting.made e).at? [outer]).all Setting.isTable

instance (e : String × Setting) : Decidable (KeepsSections e) :=
  inferInstanceAs (Decidable (∀ outer ∈ sections, _ = true))

theorem KeepsSections.table {e : String × Setting} (h : KeepsSections e) {outer : String}
    (houter : outer ∈ sections) (t : Setting) (ht : (Setting.made e).at? [outer] = some t) :
    ∃ entries, t = .table entries := by
  have htable := h outer houter
  rw [ht] at htable
  cases t with
  | table entries => exact ⟨entries, rfl⟩
  | _ => exact absurd htable nofun

/-- Every setting is at the top or in a section. -/
theorem Item.leaves {e : String × Setting} (h : KeepsSections e) (i : Item) :
    Setting.Leaves e i.path := by
  cases i with
  | serviceName | environment => exact .top _
  | _ => exact .inner _ (h.table (by decide))

end AppConfig
end RewardDesk
