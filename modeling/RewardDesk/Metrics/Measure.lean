/-!
# Measures

What is counted while the service runs. A `Measure` is one occurrence; a counter is the number of
occurrences that are alike.
-/

namespace RewardDesk

/-- Something that is counted. -/
inductive Measure where
  /-- A command was handled, with success or with an error of this code. -/
  | command (name status : String)
  | rewardCreated (type : String)
  | requestCreated
  /-- A request was moved from one status to another. -/
  | transition (source target : String)
  deriving DecidableEq, Repr

namespace Measure

/-- The counter of a measure. -/
def counter : Measure → String
  | .command .. => "commands_total"
  | .rewardCreated _ => "rewards_created_total"
  | .requestCreated => "reward_requests_created_total"
  | .transition .. => "reward_request_transitions_total"

/-- The labels of a measure, in order of their names. -/
def labels : Measure → List (String × String)
  | .command name status => [("command", name), ("status", status)]
  | .rewardCreated type => [("reward_type", type)]
  | .requestCreated => []
  | .transition source target => [("from", source), ("to", target)]

/-- The command whose duration is measured too. -/
def command? : Measure → Option String
  | .command name _ => some name
  | _ => none

/-- The summary of how long commands took. -/
def durations : String := "command_duration_seconds"

/-- The status of a command that succeeded. -/
def success : String := "success"

end Measure

/-- What has been counted, in order. -/
abbrev Tally := List Measure

/-- The number of occurrences of a measure. -/
def Tally.count (t : Tally) (m : Measure) : Nat := List.count m t

end RewardDesk
