/-!
# Environments

The variables of a process, in the order in which they were set.
-/

namespace RewardDesk

/-- The variables and their values. -/
abbrev Environment := List (String × String)

namespace Environment

def get? (env : Environment) (name : String) : Option String :=
  (env.find? (·.1 == name)).map (·.2)

/-- Set a variable that is not set yet. -/
def provide (env : Environment) (name value : String) : Environment :=
  if (env.get? name).isSome then env else env ++ [(name, value)]

end Environment
end RewardDesk
