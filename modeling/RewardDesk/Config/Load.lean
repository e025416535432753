import RewardDesk.Config.Environment
import RewardDesk.Config.EnvFile
import RewardDesk.Config.Folder
import RewardDesk.Config.Sections
import RewardDesk.Toml.Document

/-!
# Loading the configuration

The configuration is joined from several sources, each laid over the ones before: the name of the
service and of the environment, the files `default.toml`, `{environment}.toml` and `{service}.toml`,
and the variables whose names begin with `REWARD_`. The port of the server may be set once more, by
a variable that is named after the service.
-/

namespace RewardDesk

/-- Why the configuration cannot be loaded. -/
inductive LoadError where
  /-- A file is no document. -/
  | unreadable (file : String)
  | misfit (cause : Misfit)
  deriving DecidableEq, Repr

namespace LoadError

def message : LoadError → String
  | .unreadable file => "TOML parse error in " ++ file
  | .misfit .wrongType => "invalid type"
  | .misfit .unknown => "unknown setting"

end LoadError

/-! ### Variables -/

namespace Environment

/-- What the names of settings begin with, in lowercase. -/
def settingMark : List Char := "reward_".toList

/-- Put a point for every two underscores. -/
def pointed : List Char → List Char
  | '_' :: '_' :: rest => '.' :: pointed rest
  | c :: rest => c :: pointed rest
  | [] => []

/-- The key of the setting that a variable sets, if it sets one. -/
def settingKey? (name : String) : Option String :=
  let cs := (Text.lowercase name).toList
  if settingMark.isPrefixOf cs then some (.ofList (pointed (cs.drop settingMark.length))) else none

/-- The setting that the value of a variable spells out. -/
def settingOf (value : String) : Setting :=
  let word := Text.lowercase value
  if word = "true" then .bool true
  else if word = "false" then .bool false
  else match Number.readInt64? value with
    | some n => .int n
    | none => match Number.readFloat? value with
      | some x => .float x
      | none => .text value

/-- The settings of the variables, each under its key. -/
def settings (env : Environment) : List (String × Setting) :=
  Keyed.ofList (env.filterMap fun (name, value) =>
    (settingKey? name).map fun key => (key, settingOf value))

/-- The variable with the port of a service. -/
def portName (service : String) : String :=
  String.ofList ((Text.uppercase service).toList.map fun c => if c = '-' then '_' else c) ++ "_PORT"

/-- The port of a service, if its variable holds one. -/
def port? (env : Environment) (service : String) : Option UInt16 := do
  let value ← env.get? (portName service)
  let n ← (Number.readBounded (Nat.pow 2 16 - 1) value).toOption
  return .ofNat n

end Environment

/-! ### Files -/

/-- Is the last part of a path a name with an ending? Other files are not looked at. -/
def Folder.hasEnding (path : String) : Bool :=
  let name := (Folder.segments path).getLastD []
  (name.drop 1).contains '.'

/-- The settings in a file; a file that is not there holds none. -/
def Folder.settings (f : Folder) (path : String) : Except LoadError (List (String × Setting)) :=
  if !Folder.hasEnding path then .ok []
  else match f.read? path with
    | none => .ok []
    | some text =>
      match Toml.read? text with
      | some entries => .ok entries
      | none => .error (.unreadable path)

namespace AppConfig

/-- The variables once the file `.env` has provided its own. -/
def provided (folder : Folder) (env : Environment) : Environment :=
  match folder.read? ".env" with
  | some text => EnvFile.load text env
  | none => env

/-- The name of the environment that the service runs in. -/
def environmentName (env : Environment) : String := (env.get? "REWARD_ENV").getD "development"

/-- The files of a service, from the lowest to the highest. -/
def files (service : String) (env : Environment) : List String :=
  let place := (env.get? "CONFIG_DIR").getD "config"
  ["default", environmentName env, service].map fun name => Folder.joined place (name ++ ".toml")

/-- What is set when no source says otherwise. -/
def basics (service : String) (env : Environment) : List (String × Setting) :=
  [("service_name", .text service), ("environment", .text (environmentName env))]

/-- The sources of the configuration, from the lowest to the highest. -/
def sources (service : String) (folder : Folder) (env : Environment) :
    Except LoadError (List (List (String × Setting))) := do
  return basics service env :: (← (files service env).mapM folder.settings) ++ [env.settings]

/-- The configuration that some sources make up. -/
def ofSources (sources : List (List (String × Setting))) : Except LoadError AppConfig :=
  (AppConfig.ofSetting (sources.foldl Setting.join (.table []))).mapError .misfit

/-- Load the configuration of a service. -/
def load (service : String) (folder : Folder) (env : Environment) :
    Except LoadError AppConfig := do
  let env := provided folder env
  let config ← ofSources (← sources service folder env)
  match env.port? service with
  | some port => return { config with server := { config.server with port } }
  | none => return config

/-- The configuration that stands for one that cannot be loaded. -/
def fallback (service : String) : AppConfig :=
  { serviceName := service, environment := "development" }

/-- Load the configuration of a service, or take the fallback along with the error. -/
def loadOrDefault (service : String) (folder : Folder) (env : Environment) :
    AppConfig × Option LoadError :=
  match load service folder env with
  | .ok config => (config, none)
  | .error e => (fallback service, some e)

end AppConfig
end RewardDesk
