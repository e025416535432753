import RewardDesk.Model.Request
import RewardDesk.Model.Reward
import RewardDesk.Text.LetterCase

/-!
# Filters

What a listing is narrowed down to. A condition that is absent admits everything, and a record has
to meet all conditions.
-/

namespace RewardDesk

/-- Conditions on rewards. -/
structure RewardFilter where
  type : Option RewardType
  /-- A part of the name, in any letter case. -/
  name : Option String
  deriving DecidableEq, Repr

/-- Does the reward meet the conditions? The name and the part are both turned to lowercase as a
whole before they are compared. -/
def RewardFilter.admits (f : RewardFilter) (r : Reward) : Bool :=
  f.type.all (· = r.type) && f.name.all fun part =>
    Text.occursIn (Text.lowercase part).toList (Text.lowercase r.name).toList

/-- Conditions on requests. -/
structure RequestFilter where
  userId : Option String
  eventId : Option String
  status : Option RequestStatus
  deriving DecidableEq, Repr

/-- Does the request meet the conditions? -/
def RequestFilter.admits (f : RequestFilter) (r : Request) : Bool :=
  f.userId.all (· = r.userId) && f.eventId.all (· = r.eventId) && f.status.all (· = r.status)

end RewardDesk
