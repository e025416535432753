import RewardDesk.Config.Load
import RewardDesk.Proofs.Config.Items
import RewardDesk.Proofs.Json.Shown

/-!
# Which source counts

Every single setting of the configuration is what the highest source says that says something of it:
the variables, the file of the service, the file of the environment, the default file, and at last
what is built in. Only the port of the server may be set once more, by a variable that is named
after the service (`Environment.HoldsPort`). `AppConfig.load_precedence` says all of this.

A source says more than its names suggest. The key of a variable is a path, in which a point parts
the levels as two underscores do, and its value is read as a number or a truth value where it spells
one (`AppConfig.load_of_pointed`).
-/

namespace RewardDesk

/-! ## The port of a service

A variable holds a port if its text is read as a number below 65536. This speaks of the variable and
of its text, and not of the function that looks a port up. -/

namespace Number

theorem le_of_readDigits {bound n m : Nat} {cs : List Char} (h : readDigits bound n cs = .ok m)
    (hn : n ≤ bound) : m ≤ bound := by
  induction cs generalizing n with
  | nil =>
    obtain rfl := Except.ok.inj h
    exact hn
  | cons c cs ih =>
    simp only [readDigits] at h
    split at h
    · exact absurd h nofun
    · split at h
      · exact ih h ‹_›
      · exact absurd h nofun

/-- What is read is not beyond the bound. -/
theorem le_of_readBounded {bound n : Nat} {s : String} (h : readBounded bound s = .ok n) :
    n ≤ bound := by
  rw [readBounded] at h
  split at h
  · exact absurd h nofun
  · exact absurd h nofun
  · exact le_of_readDigits h (Nat.zero_le _)
  · exact le_of_readDigits h (Nat.zero_le _)

end Number

namespace Environment

variable {env : Environment} {service : String}

/-- Does the variable that is named after the service hold this port? -/
def HoldsPort (env : Environment) (service : String) (n : Nat) : Prop :=
  ∃ value, env.get? (portName service) = some value ∧
    Number.readBounded (Nat.pow 2 16 - 1) value = .ok n

theorem HoldsPort.port? {n : Nat} (h : env.HoldsPort service n) :
    ∃ port, env.port? service = some port ∧ port.toNat = n := by
  obtain ⟨value, hvalue, hread⟩ := h
  refine ⟨.ofNat n, ?_, UInt16.toNat_ofNat_of_lt' ?_⟩
  · simp [Environment.port?, hvalue, hread, Except.toOption]
  · exact Nat.lt_of_le_pred (by decide) (Number.le_of_readBounded hread)

/-- Without a port in that variable the port is not set once more. -/
theorem port?_eq_none (h : ∀ n, ¬ env.HoldsPort service n) : env.port? service = none := by
  rw [Environment.port?]
  cases hvalue : env.get? (portName service) with
  | none => rfl
  | some value =>
    cases hread : Number.readBounded (Nat.pow 2 16 - 1) value with
    | ok n => exact absurd ⟨value, hvalue, hread⟩ (h n)
    | error cause => simp [hread, Except.toOption]

end Environment

namespace AppConfig

/-! ## What is built in

The built-in values are entries of the lowest source. Read back from there they are the ones that
are meant, for every setting. -/

/-- The configuration that no source says anything about. -/
def builtIn (service : String) (env : Environment) : AppConfig :=
  { serviceName := service, environment := environmentName env }

theorem made_serviceName (service : String) :
    Setting.made ("service_name", .text service) = .table [("service_name", .text service)] := by
  have hpath : Setting.pathOf "service_name" = [.name "service_name"] := by decide
  rw [Setting.made, Setting.assign, hpath]
  rfl

theorem made_environment (name : String) :
    Setting.made ("environment", .text name) = .table [("environment", .text name)] := by
  have hpath : Setting.pathOf "environment" = [.name "environment"] := by decide
  rw [Setting.made, Setting.assign, hpath]
  rfl

theorem keepsSections_basics {service : String} {env : Environment} :
    ∀ e ∈ basics service env, KeepsSections e := by
  intro e he
  simp only [basics, List.mem_cons, List.not_mem_nil, or_false] at he
  rcases he with rfl | rfl
  · intro outer houter
    rw [made_serviceName]
    simp only [sections, List.mem_cons, List.not_mem_nil, or_false] at houter
    rcases houter with rfl | rfl | rfl | rfl <;> rfl
  · intro outer houter
    rw [made_environment]
    simp only [sections, List.mem_cons, List.not_mem_nil, or_false] at houter
    rcases houter with rfl | rfl | rfl | rfl <;> rfl

/-- What is set when no source says otherwise is what is built in. -/
theorem Item.read_basics (service : String) (env : Environment) (i : Item) :
    (Setting.saidBy i.path (basics service env)).elim (.ok (i.value standard)) i.read =
      .ok (i.value (builtIn service env)) := by
  simp only [Setting.saidBy, basics, List.filterMap, Setting.said, made_serviceName, made_environment]
  cases i with
  | _ => rfl

/-! ## All sources

With the laws of layers the configuration is read setting by setting: each of them is what its
highest source says. -/

/-- Each setting is what the highest source says that says something of it, or what is built in. -/
theorem read_of_ofSources {service : String} {env : Environment} {c : AppConfig}
    {sources : List (List (String × Setting))} (h : ofSources (basics service env :: sources) = .ok c)
    (hkeeps : ∀ source ∈ sources, ∀ e ∈ source, KeepsSections e) (i : Item) :
    (sources.reverse.findSome? (Setting.saidBy i.path)).elim
      (.ok (i.value (builtIn service env))) i.read = .ok (i.value c) := by
  have hall : ∀ e ∈ (basics service env :: sources).flatten, KeepsSections e := by
    intro e he
    rw [List.flatten_cons, List.mem_append, List.mem_flatten] at he
    rcases he with he | ⟨source, hsource, he⟩
    · exact keepsSections_basics e he
    · exact hkeeps source hsource e he
  obtain ⟨entries, hroot⟩ :=
    Setting.exists_join_eq_table (basics service env :: sources).flatten []
  rw [ofSources, Setting.foldl_join, hroot] at h
  obtain ⟨read, hread, rfl⟩ : ∃ read, ofSetting (.table entries) = .ok read ∧ read = c := by
    cases hread : ofSetting (.table entries) with
    | error cause =>
      rw [hread] at h
      exact absurd h nofun
    | ok read =>
      rw [hread] at h
      exact ⟨read, rfl, Except.ok.inj h⟩
  have htables : ∀ outer ∈ sections, ∀ t, (Setting.table entries).at? [outer] = some t →
      ∃ inner, t = .table inner := by
    intro outer houter
    rw [← hroot]
    exact Setting.table_join Setting.tidy_empty (fun e he => (hall e he).table houter) nofun
  have hvalue := i.read_of_ofSetting hread htables
  rw [← hroot] at hvalue
  have hsaid := Setting.read_join i.plain_read Setting.tidy_empty (fun e he => i.leaves (hall e he))
    hvalue
  have hempty : (Setting.table []).at? i.path = none := by cases i <;> rfl
  rw [Setting.saidBy_flatten, List.reverse_cons, List.findSome?_append, hempty, Option.or_none] at hsaid
  cases hfound : sources.reverse.findSome? (Setting.saidBy i.path) with
  | some s =>
    rw [hfound] at hsaid
    exact hsaid
  | none =>
    rw [hfound, Option.none_or, List.findSome?_singleton] at hsaid
    exact (i.read_basics service env).symm.trans hsaid

/-! ## Variables

A setting has one variable that is there for it, but others may say something of it too, by another
spelling of the same key. What the variables say is settled if only one of them says anything. -/

/-- The key of a setting. -/
def Item.key (i : Item) : String := ".".intercalate i.path

/-- The name of the variable that is there for a setting. -/
def Item.variable (i : Item) : String :=
  "REWARD_" ++ "__".intercalate (i.path.map Text.uppercase)

theorem Item.settingKey?_variable (i : Item) : Environment.settingKey? i.variable = some i.key := by
  cases i with
  | _ => decide +kernel

theorem Item.pathOf_key (i : Item) : Setting.pathOf i.key = i.path.map .name := by
  cases i with
  | _ => decide +kernel

/-- What an entry with the key of a setting says there. -/
theorem Item.said_key (i : Item) {s : Setting} (hplain : ∀ entries, s ≠ .table entries) :
    Setting.said i.path (i.key, s) = some s := by
  have hmade : (Setting.made (i.key, s)).at? i.path = some (s.overlay .nothing) := by
    rw [Setting.made, Setting.assign, i.pathOf_key]
    cases i with
    | _ => rfl
  rw [Setting.said, hmade]
  cases s with
  | table entries => exact absurd rfl (hplain entries)
  | _ => rfl

/-- Does a variable say anything of a setting? -/
def Item.SpokenOfBy (i : Item) (v : String × String) : Prop :=
  ∃ key, Environment.settingKey? v.1 = some key ∧
    Setting.said i.path (key, Environment.settingOf v.2) ≠ none

instance (i : Item) (v : String × String) : Decidable (i.SpokenOfBy v) :=
  decidable_of_iff (∃ key ∈ Environment.settingKey? v.1,
    Setting.said i.path (key, Environment.settingOf v.2) ≠ none) Iff.rfl

theorem settingOf_ne_table (value : String) (entries : List (String × Setting)) :
    Environment.settingOf value ≠ .table entries := by
  simp only [Environment.settingOf]
  split
  · exact nofun
  · split
    · exact nofun
    · split
      · exact nofun
      · split
        · exact nofun
        · exact nofun

/-- What the variables say of a setting, if only one of them says anything of it. -/
theorem saidBy_settings {env : Environment} {i : Item} {v : String × String} (hv : v ∈ env)
    (hkey : Environment.settingKey? v.1 = some i.key)
    (honly : ∀ v' ∈ env, i.SpokenOfBy v' → v' = v) :
    Setting.saidBy i.path env.settings = some (Environment.settingOf v.2) := by
  have hmade : ∀ e ∈ env.settings, ∃ v' ∈ env, ∃ key, Environment.settingKey? v'.1 = some key ∧
      e = (key, Environment.settingOf v'.2) := by
    intro e he
    obtain ⟨v', hv', hmade⟩ := List.mem_filterMap.1 (Keyed.mem_of_mem_ofList he)
    obtain ⟨key, hkey', rfl⟩ := Option.map_eq_some_iff.1 hmade
    exact ⟨v', hv', key, hkey', rfl⟩
  have hentry : ∀ e ∈ env.settings, Setting.said i.path e ≠ none →
      e = (i.key, Environment.settingOf v.2) := by
    intro e he hsaid
    obtain ⟨v', hv', key, hkey', rfl⟩ := hmade e he
    obtain rfl := honly v' hv' ⟨key, hkey', hsaid⟩
    rw [Option.some.inj (hkey.symm.trans hkey')]
  -- The key is there, and whatever value it has is said.
  obtain ⟨e, he, heq⟩ : ∃ e ∈ env.settings, e.1 = i.key := by
    refine List.mem_map.1 (Keyed.mem_names_ofList.2 (List.mem_map.2
      ⟨(i.key, Environment.settingOf v.2), List.mem_filterMap.2 ⟨v, hv, ?_⟩, rfl⟩))
    show (Environment.settingKey? v.1).map (fun key => (key, Environment.settingOf v.2)) = _
    rw [hkey]
    rfl
  obtain ⟨v', -, key, -, rfl⟩ := hmade e he
  obtain rfl : key = i.key := heq
  have hsaid := i.said_key (settingOf_ne_table v'.2)
  have hsame := hentry _ he (by rw [hsaid]; exact nofun)
  rw [hsame] at he
  exact Setting.saidBy_of_only he (i.said_key (settingOf_ne_table v.2)) hentry

/-! ## Loading

The files are found by the names of the environment and of the service, in a directory that a
variable may name. -/

/-- A file of the configuration, by its name without the ending. -/
def file (folder : Folder) (vars : Environment) (name : String) :
    Except LoadError (List (String × Setting)) :=
  folder.settings (Folder.joined ((vars.get? "CONFIG_DIR").getD "config") (name ++ ".toml"))

/-- What is loaded is made of the sources, but for the port of the server. -/
theorem exists_sources {service : String} {folder : Folder} {env : Environment} {config : AppConfig}
    (hload : load service folder env = .ok config) :
    let vars := provided folder env
    ∃ lowest place own joined, file folder vars "default" = .ok lowest ∧
      file folder vars (environmentName vars) = .ok place ∧ file folder vars service = .ok own ∧
      ofSources [basics service vars, lowest, place, own, vars.settings] = .ok joined ∧
      config = (vars.port? service).elim joined fun port =>
        { joined with server := { joined.server with port } } := by
  intro vars
  simp only [load, sources, files, bind_eq_ok, List.map_cons, List.map_nil, List.mapM_cons,
    List.mapM_nil] at hload
  obtain ⟨_, ⟨_, ⟨lowest, hlowest, _, ⟨place, hplace, _, ⟨own, hown, _, hnil, hcons⟩, hcons'⟩,
    hcons''⟩, hall⟩, joined, hjoined, hconfig⟩ := hload
  obtain rfl := Except.ok.inj hnil
  obtain rfl := Except.ok.inj hcons
  obtain rfl := Except.ok.inj hcons'
  obtain rfl := Except.ok.inj hcons''
  obtain rfl := Except.ok.inj hall
  refine ⟨lowest, place, own, joined, hlowest, hplace, hown, hjoined, ?_⟩
  cases hport : vars.port? service with
  | none =>
    rw [show (provided folder env).port? service = none from hport] at hconfig
    exact (Except.ok.inj hconfig).symm
  | some port =>
    rw [show (provided folder env).port? service = some port from hport] at hconfig
    exact (Except.ok.inj hconfig).symm

/-- The port is no other setting. -/
theorem Item.value_with_port {i : Item} (h : i ≠ .port) (c : AppConfig) (port : UInt16) :
    i.value { c with server := { c.server with port } } = i.value c := by
  cases i with
  | port => exact absurd rfl h
  | _ => rfl

/-- When the configuration is loaded, the three files can be read, and unless one of them or a
variable takes the place of a whole section:

* each setting is what the highest source says that says something of it, in the order variables,
  file of the service, file of the environment, default file, or else it is what is built in;
* only the port of the server is that of the variable which is named after the service, if that
  holds a port at all.

A variable says something of a setting by its name, which is `REWARD_` and the path of the setting
with two underscores between the levels. When the configuration cannot be loaded, the error is given
along with what is built in, whatever the files and the variables are. -/
theorem load_precedence (service : String) (folder : Folder) (env : Environment) :
    let vars := provided folder env
    (∀ config, load service folder env = .ok config → ∃ lowest place own,
      file folder vars "default" = .ok lowest ∧
      file folder vars (environmentName vars) = .ok place ∧ file folder vars service = .ok own ∧
      ((∀ source ∈ [lowest, place, own, vars.settings], ∀ e ∈ source, KeepsSections e) →
        ∀ i : Item, (i = .port → ∀ n, ¬ vars.HoldsPort service n) →
          ([vars.settings, own, place, lowest].findSome? (Setting.saidBy i.path)).elim
            (.ok (i.value (builtIn service vars))) i.read = .ok (i.value config)) ∧
      ∀ n, vars.HoldsPort service n → config.server.port.toNat = n) ∧
    (∀ i : Item, Environment.settingKey? i.variable = some i.key ∧ ∀ v ∈ vars,
      Environment.settingKey? v.1 = some i.key → (∀ v' ∈ vars, i.SpokenOfBy v' → v' = v) →
        Setting.saidBy i.path vars.settings = some (Environment.settingOf v.2)) ∧
    (∀ config, load service folder env = .ok config →
      loadOrDefault service folder env = (config, none)) ∧
    ∀ error, load service folder env = .error error →
      loadOrDefault service folder env =
        ({ serviceName := service, environment := "development" }, some error) := by
  intro vars
  refine ⟨fun config hload => ?_, fun i => ⟨i.settingKey?_variable, fun v hv hkey honly => ?_⟩,
    fun config hload => ?_, fun error hload => ?_⟩
  · obtain ⟨lowest, place, own, joined, hlowest, hplace, hown, hjoined, hconfig⟩ :=
      exists_sources hload
    refine ⟨lowest, place, own, hlowest, hplace, hown, fun hkeeps i hport => ?_, fun n hport => ?_⟩
    · have hread := read_of_ofSources hjoined hkeeps i
      have hsame : i.value config = i.value joined := by
        rw [hconfig]
        cases hfound : vars.port? service with
        | none => rfl
        | some port =>
          have hi : i ≠ .port := fun heq =>
            absurd (hfound.symm.trans (Environment.port?_eq_none (hport heq))) nofun
          exact Item.value_with_port hi joined port
      rw [hsame]
      exact hread
    · obtain ⟨port, hsome, hn⟩ := hport.port?
      rw [hconfig, show (provided folder env).port? service = some port from hsome]
      exact hn
  · exact saidBy_settings hv hkey honly
  · rw [loadOrDefault, hload]
  · rw [loadOrDefault, hload]
    rfl

/-- A file of each kind. -/
def sampleFolder : Folder where
  files := [("config/default.toml", "[server]\nhost = \"low\"\nport = 1\n"),
    ("config/production.toml", "[server]\nhost = \"place\"\nport = 2\n"),
    ("config/reward-service.toml", "[server]\nport = 3\nrequest_timeout_seconds = 5\n")]

/-- Variables that name the environment, set a port and a time, and set the port of the service. -/
def sampleVariables : Environment := [("REWARD_ENV", "production"), ("REWARD_SERVER__PORT", "4"),
  ("REWARD_SERVER__REQUEST_TIMEOUT_SECONDS", "7"), ("REWARD_SERVICE_PORT", "+4000")]

/-- The host is that of the file of the environment, the time that of its variable, and the port
that of the variable which is named after the service. -/
theorem load_precedence_of_sample :
    ∃ config, load "reward-service" sampleFolder sampleVariables = .ok config ∧
      config.server = ⟨"place", 4000, 7⟩ ∧
      Item.requestTimeout.read (Environment.settingOf "7") = .ok config.server.requestTimeout ∧
      sampleVariables.HoldsPort "reward-service" 4000 ∧ config.server.port.toNat = 4000 := by
  have hserved : (load "reward-service" sampleFolder sampleVariables).toOption.map
      AppConfig.server = some ⟨"place", 4000, 7⟩ := by decide +kernel
  obtain ⟨config, hloaded, hserver⟩ := Option.map_eq_some_iff.1 hserved
  have hload := toOption_eq_some.1 hloaded
  obtain ⟨hsources, hvariables, -⟩ :=
    load_precedence "reward-service" sampleFolder sampleVariables
  obtain ⟨lowest, place, own, hlowest, hplace, hown, hread, hport⟩ := hsources config hload
  have hvars : provided sampleFolder sampleVariables = sampleVariables := by decide +kernel
  rw [hvars] at hlowest hplace hown hread hport hvariables
  have hkeeps : ∀ name ∈ ["default", "production", "reward-service"], ∀ source,
      file sampleFolder sampleVariables name = .ok source → ∀ e ∈ source, KeepsSections e := by
    have hchecked : ∀ name ∈ ["default", "production", "reward-service"],
        ∀ e ∈ ((file sampleFolder sampleVariables name).toOption).getD [], KeepsSections e := by
      decide +kernel
    intro name hname source hsource
    have hentries := hchecked name hname
    rwa [hsource] at hentries
  have hsaid := (hvariables .requestTimeout).2 ("REWARD_SERVER__REQUEST_TIMEOUT_SECONDS", "7")
    (by decide) (by decide +kernel) (by decide +kernel)
  have hholds : sampleVariables.HoldsPort "reward-service" 4000 :=
    ⟨"+4000", by decide +kernel, rfl⟩
  refine ⟨config, hload, hserver, ?_, hholds, hport 4000 hholds⟩
  have htime := hread ?_ .requestTimeout nofun
  · rw [List.findSome?_cons, hsaid] at htime
    exact htime
  · intro source hsource
    simp only [List.mem_cons, List.not_mem_nil, or_false] at hsource
    rcases hsource with rfl | rfl | rfl | rfl
    · exact hkeeps "default" (by decide) _ hlowest
    · exact hkeeps "production" (by decide) _ hplace
    · exact hkeeps "reward-service" (by decide) _ hown
    · decide +kernel

/-- A variable with a point between the levels sets the port, although none is named with two
underscores for it, no file is there and 8080 is built in; and the host is not the text that its
variable holds, which is read as a number. -/
theorem load_of_pointed :
    let env : Environment := [("REWARD_SERVER.PORT", "2222"), ("REWARD_SERVER__HOST", "010")]
    (env.map fun v => Text.uppercase v.1).Nodup ∧
      (∀ v ∈ env, Text.uppercase v.1 ≠ Item.port.variable) ∧
      (∀ e ∈ env.settings, KeepsSections e) ∧ env.port? "reward-service" = none ∧
      Item.host.variable = "REWARD_SERVER__HOST" ∧
      ∃ config, load "reward-service" {} env = .ok config ∧
        (builtIn "reward-service" env).server.port = 8080 ∧ config.server.port = 2222 ∧
        config.server.host = "10" := by
  intro env
  refine ⟨by decide +kernel, by decide +kernel, by decide +kernel, by decide +kernel,
    by decide +kernel, ?_⟩
  have hserved : (load "reward-service" {} env).toOption.map AppConfig.server =
      some ⟨"10", 2222, 30⟩ := by decide +kernel
  obtain ⟨config, hloaded, hserver⟩ := Option.map_eq_some_iff.1 hserved
  refine ⟨config, toOption_eq_some.1 hloaded, rfl, ?_, ?_⟩
  · rw [hserver]
  · rw [hserver]

end AppConfig
end RewardDesk
