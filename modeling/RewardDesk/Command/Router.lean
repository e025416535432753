import RewardDesk.Desk.Program
import RewardDesk.Store.Table

/-!
# Routing commands

A router knows commands by name. To dispatch a command is to handle its payload, to count how it
ended, and to note it in the log when it failed; an unknown command is noted but not counted.
-/

namespace RewardDesk

/-- What handles a command. -/
structure Handler where
  name : String
  handle : Json → Desk Json

/-- The commands by name. -/
structure Router where
  handlers : Table String Handler

namespace Router

/-- Where the notes of routing come from. -/
def target : String := "reward_service::command::router"

def empty : Router := ⟨.empty⟩

/-- Enter a command, in place of one with the same name. -/
def add (r : Router) (h : Handler) : Router := ⟨r.handlers.set h.name h⟩

/-- The names of the commands, ascending. -/
def names (r : Router) : List String := r.handlers.keys

def size (r : Router) : Nat := r.names.length

def get? (r : Router) (name : String) : Option Handler := r.handlers.get? name

/-- Enter commands one after the other and note it in the log. -/
def register (r : Router) : List Handler → Program Router
  | [] => return r
  | h :: hs => do
    Program.note ⟨.debug, target, "注册命令处理器", [("command", .text h.name)]⟩
    register (r.add h) hs

/-- The status under which an outcome is counted. -/
def statusOf : Except DeskError α → String
  | .ok _ => Measure.success
  | .error e => e.code

/-- Count the outcome of a command, and note a failure. -/
def conclude (name : String) (outcome : Except DeskError α) : Program Unit := do
  Program.ask (.measure (.command name (statusOf outcome)))
  match outcome with
  | .ok _ => return
  | .error e =>
    if e.isBusiness then
      Program.note ⟨.debug, target, "Command rejected", [("error", .error e)]⟩
    else Program.note ⟨.warn, target, "Command failed", [("error", .error e)]⟩

/-- Handle a command. -/
def dispatch (r : Router) (name : String) (payload : Json) : Program (Except DeskError Json) :=
  Program.within ⟨.info, target, "dispatch", [("command", .text name)]⟩ do
    match r.get? name with
    | none =>
      Program.note ⟨.warn, target, "Unknown command", []⟩
      return .error (.unknownCommand name)
    | some h =>
      let outcome ← (h.handle payload).run
      conclude name outcome
      return outcome

end Router
end RewardDesk
