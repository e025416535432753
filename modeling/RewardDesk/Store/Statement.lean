import RewardDesk.Error.Storage
import RewardDesk.Model.Filter
import RewardDesk.Store.Listing

/-!
# Statements

All that the desk asks of its storage. Each statement is carried out as a whole, and
`Statement.Result` is the type of its answer.
-/

namespace RewardDesk

/-- A statement to the storage. -/
inductive Statement where
  | createEvent (event : Event)
  | getEvent (id : String)
  /-- Overwrite the event with the same id, and say whether there is one. -/
  | updateEvent (event : Event)
  | listEvents (status : Option EventStatus) (window : Window)
  | countEvents (status : Option EventStatus)
  | createReward (reward : Reward)
  | getReward (id : String)
  | getRewards (ids : List String)
  | listRewards (filter : RewardFilter) (window : Window)
  | countRewards (filter : RewardFilter)
  | walkRewards (filter : RewardFilter) (query : CursorQuery)
  /-- Enter a link, and say whether it is new. -/
  | addLink (link : Link)
  /-- Take a link out, and say whether it was there. -/
  | removeLink (eventId rewardId : String)
  | linkedRewards (eventId : String)
  /-- Enter a request as pending, unless one of its applicant is pending already. -/
  | createPending (request : Request)
  | getRequest (id : String)
  | listRequests (filter : RequestFilter) (window : Window)
  | countRequests (filter : RequestFilter)
  | walkRequests (filter : RequestFilter) (query : CursorQuery)
  /-- Move a request to a status if it is pending, and give it as it is then. -/
  | transition (id : String) (status : RequestStatus) (time : Instant)

/-- The type of a statement's answer. -/
@[reducible] def Statement.Result : Statement → Type
  | .createEvent _ | .createReward _ => Unit
  | .getEvent _ => Option Event
  | .updateEvent _ | .addLink _ | .removeLink .. | .createPending _ => Bool
  | .listEvents .. => List Event
  | .countEvents _ | .countRewards _ | .countRequests _ => UInt64
  | .getReward _ => Option Reward
  | .getRewards _ | .listRewards .. | .walkRewards .. => List Reward
  | .linkedRewards _ => List String
  | .getRequest _ | .transition .. => Option Request
  | .listRequests .. | .walkRequests .. => List Request

/-- A storage with states of type `σ`: how it carries out statements. -/
def Storage (σ : Type) : Type := (s : Statement) → σ → Except StorageFault s.Result × σ

/-- A storage whose connections are closed. Only a look-up of nothing needs no connection. -/
def Storage.closed : Storage σ := fun s state =>
  match s with
  | .getRewards [] => (.ok [], state)
  | _ => (.error .poolClosed, state)

end RewardDesk
