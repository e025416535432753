import RewardDesk.Command.Standard
import RewardDesk.Config.Load
import RewardDesk.Database.Connect
import RewardDesk.Service.Observability

/-!
# The life of the service

From loading the configuration to the end: the service opens its log and its storage, listens until
it is told to stop, and closes its log again. Whatever keeps it from listening ends it at once.
-/

namespace RewardDesk.Service

def name : String := "reward-service"

/-- Where its notes come from. -/
def target : String := "reward_service"

/-- Who tells the service to stop. -/
inductive Signal where
  | interrupt | terminate
  deriving DecidableEq, Repr

/-- What is said when the service is told to stop. -/
def Signal.message : Signal → String
  | .interrupt => "Received Ctrl+C, starting graceful shutdown..."
  | .terminate => "Received SIGTERM, starting graceful shutdown..."

/-- What surrounds the service. -/
structure Surroundings where
  folder : Folder := {}
  env : Environment := []
  network : Network := {}
  signal : Signal := .terminate

/-- Why the service ends: the reason and what lies behind it, the nearest cause first. -/
structure Failure where
  reason : String
  causes : List String := []
  deriving DecidableEq, Repr

/-- A failure as it is printed. -/
def Failure.text (f : Failure) : String :=
  let behind := match f.causes with
    | [] => ""
    | [cause] => "\n\nCaused by:\n    " ++ cause
    | causes => "\n\nCaused by:" ++ String.join (causes.zipIdx.map fun (cause, n) =>
        "\n    " ++ toString n ++ ": " ++ cause)
  "Error: " ++ f.reason ++ behind ++ "\n"

/-- The failure of listening. -/
def Failure.ofNetwork (p : Network.Problem) : Failure := ⟨p.message, []⟩

/-- The failure of setting up. -/
def Failure.ofSetup (e : SetupError) : Failure := ⟨e.message, e.causes⟩

/-- Say something in general. -/
def note (level : Log.Level) (message : String) : Program Unit :=
  Program.note { level, target, message }

/-- Open the storage. -/
def openStorage (s : Surroundings) (c : AppConfig) : Program (Except Failure Unit) :=
  match c.storage.backend with
  | .postgres => do
    return .error (.ofSetup (← Database.connect (AppConfig.provided s.folder s.env) c.database))
  | .memory => do
    note .warn "Using in-memory storage, data will be lost on restart"
    return .ok ()

/-- Listen until the signal comes. -/
def serve (s : Surroundings) (c : AppConfig) (n : Network) : Program (Except Failure Unit) := do
  match ← openStorage s c with
  | .error failure => return .error failure
  | .ok () =>
    let _ ← Router.openStandard
    match n.listen c.server.host c.server.port with
    | .error problem => return .error (.ofNetwork problem)
    | .ok _ =>
      note .info ("HTTP server listening on " ++ c.server.address)
      note .info s.signal.message
      note .info "Service shutdown complete"
      return .ok ()

/-- What is said about the configuration. -/
def announce (c : AppConfig) (e : Option LoadError) : Program Unit := do
  match e with
  | some e => note .warn ("Failed to load config, using defaults: " ++ e.message)
  | none => pure ()
  note .info "Starting reward-service..."
  Program.note {
    level := .info, target, message := "Configuration loaded",
    fields := [("environment", .words c.environment), ("backend", .words c.storage.backend.title)] }

/-- The configuration of the service, and why it is not the one that was to be loaded. -/
def config (s : Surroundings) : AppConfig × Option LoadError :=
  AppConfig.loadOrDefault name s.folder s.env

/-- How the service is watched: under the name that is configured for the service. -/
def watching (s : Surroundings) : ObservabilityConfig :=
  let c := (config s).1
  { c.observability with serviceName := c.serviceName }

/-- The whole life of the service. -/
def live (s : Surroundings) : Program (Except Failure Unit) := do
  let (c, e) := config s
  match ← Observability.start (watching s) s.network with
  | .error problem => return .error (.ofNetwork problem)
  | .ok n =>
    announce c e
    let outcome ← serve s c n
    Observability.stop
    return outcome

/-- The log of a life, as it is written. -/
def written (s : Surroundings) (log : List Log.Entry) (order : FieldOrder := .byLine) :
    List Json :=
  Observability.written (AppConfig.provided s.folder s.env) (watching s) log order

end RewardDesk.Service
