import RewardDesk.Error.Storage

/-!
# Setup errors

What can keep the service from starting: its database, its tables or its configuration.
-/

namespace RewardDesk

/-- The errors of setting up. -/
inductive SetupError where
  | database (fault : StorageFault)
  /-- A migration was applied that is not known any more. -/
  | missingMigration (version : Int)
  | config (message : String)
  | internal (message : String)
  deriving DecidableEq, Repr

namespace SetupError

def message : SetupError → String
  | .database fault => "数据库错误: " ++ fault.message
  | .missingMigration version =>
    "数据库迁移失败: migration " ++ toString version ++
      " was previously applied but is missing in the resolved migrations"
  | .config message => "配置错误: " ++ message
  | .internal message => "内部错误: " ++ message

/-- What lies behind an error, the nearest cause first. -/
def causes : SetupError → List String
  | .database fault => fault.message :: fault.causes
  | .missingMigration version =>
    ["migration " ++ toString version ++
      " was previously applied but is missing in the resolved migrations"]
  | .config message => [message]
  | .internal _ => []

def code : SetupError → String
  | .database _ => "DATABASE_ERROR"
  | .missingMigration _ => "MIGRATION_ERROR"
  | .config _ => "CONFIG_ERROR"
  | .internal _ => "INTERNAL_ERROR"

/-- May it go away by itself? -/
def isRetryable : SetupError → Bool
  | .database fault => fault.isPassing
  | _ => false

end SetupError
end RewardDesk
