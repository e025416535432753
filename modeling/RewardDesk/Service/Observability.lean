import RewardDesk.Config.Environment
import RewardDesk.Config.Sections
import RewardDesk.Desk.Program
import RewardDesk.Log.Writer
import RewardDesk.Service.Network

/-!
# Watching the service

The log and the metrics are opened before anything else and closed after everything else.
-/

namespace RewardDesk.Observability

/-- Where the notes about it come from. -/
def target : String := "reward_shared::observability"

/-- What is said when the log was opened before. -/
def openedBefore : String := "a global default trace dispatcher has already been set"

/-- Open the log and, if they are wanted, the metrics, which have a port of their own. -/
def start (c : ObservabilityConfig) (n : Network) : Program (Except Network.Problem Network) := do
  Program.note {
    level := .info, target, message := "Observability initialized",
    fields := [("service", .words c.serviceName), ("metrics_enabled", .bool c.metricsEnabled),
      ("metrics_port", .number c.metricsPort.toNat)] }
  if c.metricsEnabled then
    match n.listen "0.0.0.0" c.metricsPort with
    | .error problem => return .error problem
    | .ok n =>
      Program.note {
        level := .info, target := target ++ "::metrics",
        message := "Metrics server listening on 0.0.0.0:" ++ toString c.metricsPort.toNat }
      return .ok n
  else return .ok n

/-- Close the log. -/
def stop : Program Unit :=
  Program.note { level := .info, target, message := "Shutting down observability..." }

/-- The log as it is written. -/
def written (env : Environment) (c : ObservabilityConfig) (log : List Log.Entry)
    (order : FieldOrder := .byLine) : List Json :=
  let filter := Log.Filter.choose (env.get? "RUST_LOG") c.logLevel
  Log.written order c.jsonLogs (filter.records order [] log)

end RewardDesk.Observability
