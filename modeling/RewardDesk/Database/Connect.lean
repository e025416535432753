import RewardDesk.Config.Sections
import RewardDesk.Database.Options
import RewardDesk.Desk.Program
import RewardDesk.Error.Setup

/-!
# Connecting to the database

No server can be reached from here, so a connection always fails: because its address makes no
sense, because there is no socket where it should be, or because nobody answers in time.
-/

namespace RewardDesk.Database

/-- Where the notes about the database come from. -/
def target : String := "reward_shared::database"

/-- The longest path of a socket, in bytes. -/
def maxSocketPath : Nat := 107

/-- Why a socket cannot be opened. -/
def socketFault (file : String) : StorageFault :=
  if file.toList.contains '\x00' then .io "paths must not contain interior null bytes"
  else if maxSocketPath < file.utf8ByteSize then .io "path must be shorter than SUN_LEN"
  else .io "No such file or directory (os error 2)"

/-- Why a connection with these options fails. -/
def fault (c : DatabaseConfig) (o : Options) : StorageFault :=
  if c.connectTimeout = 0 ∨ c.maxConnections = 0 then .poolTimedOut
  else match o.socketFile? with
    | some file => socketFault file
    | none => .poolTimedOut

/-- Try to connect, and tell why it failed. -/
def connect (env : Environment) (c : DatabaseConfig) : Program SetupError :=
  Program.within { target, name := "connect", fields := [] } do
    Program.note { level := .info, target, message := "Connecting to database..." }
    let (unknown, options) := Options.ofAddress env c.url
    for (name, value) in unknown do
      Program.note {
        level := .warn, target := "sqlx_postgres::options::parse",
        message := "ignoring unrecognized connect parameter",
        fields := [("key", .words name), ("value", .words value)] }
    match options with
    | .ok o => return .database (fault c o)
    | .error problem => return .database (.configuration problem.message)

end RewardDesk.Database
