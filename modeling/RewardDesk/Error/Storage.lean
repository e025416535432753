/-!
# Storage faults

What can go wrong between the desk and its database.
-/

namespace RewardDesk

/-- Why a statement was not carried out. -/
inductive StorageFault where
  | poolTimedOut
  | poolClosed
  | rowNotFound
  | workerCrashed
  | io (message : String)
  | protocol (message : String)
  | columnNotFound (name : String)
  /-- The address or an option of the database cannot be understood. -/
  | configuration (message : String)
  deriving DecidableEq, Repr

namespace StorageFault

/-- What the wording of a fault in the configuration begins with. -/
def configurationMark : String := "error with configuration: "

def message : StorageFault → String
  | .poolTimedOut => "pool timed out while waiting for an open connection"
  | .poolClosed => "attempted to acquire a connection on a closed pool"
  | .rowNotFound => "no rows returned by a query that expected to return at least one row"
  | .workerCrashed => "attempted to communicate with a crashed background worker"
  | .io m => "error communicating with database: " ++ m
  | .protocol m => "encountered unexpected or invalid data: " ++ m
  | .columnNotFound name => "no column found for name: " ++ name
  | .configuration m => configurationMark ++ m

/-- What lies behind a fault, the nearest cause first. -/
def causes : StorageFault → List String
  | .io m => [m]
  | .configuration m =>
    if configurationMark.toList.isPrefixOf m.toList then
      [m, String.ofList (m.toList.drop configurationMark.length)]
    else [m]
  | _ => []

/-- Can the same attempt succeed later on? -/
def isPassing : StorageFault → Bool
  | .poolTimedOut | .io _ => true
  | _ => false

end StorageFault
end RewardDesk
