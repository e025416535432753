import RewardDesk.Command.Router
import RewardDesk.Desk.Links
import RewardDesk.Desk.Requests

/-!
# The commands of the desk

Each command reads its payload, does its work and writes what came of it.
-/

namespace RewardDesk

/-- The command that reads a payload, works and writes the result. -/
def Handler.of (name : String) (payload : Payload α) (work : α → Desk β) (write : β → Json) :
    Handler where
  name
  handle j := do
    match payload.read j with
    | .error cause => throw (.validation cause)
    | .ok a => return write (← work a)

namespace Command

def onEvents : List Handler := [
  .of "create_event" CreateEvent.payload Events.create Event.codec.encode,
  .of "get_event" ById.payload (fun p => Events.get p.id) Event.codec.encode,
  .of "update_event" UpdateEvent.payload Events.update Event.codec.encode,
  .of "get_events" ListEvents.payload Events.list (OffsetPage.codec Event.codec).encode]

def onRewards : List Handler := [
  .of "create_reward" CreateReward.payload Rewards.create Reward.codec.encode,
  .of "get_rewards" ListRewards.payload Rewards.list RewardList.codec.encode,
  .of "get_rewards_by_cursor" WalkRewards.payload Rewards.walk
    (CursorPage.codec Reward.codec).encode,
  .of "get_reward_by_id" ById.payload (fun p => Rewards.get p.id) Reward.codec.encode]

def onLinks : List Handler := [
  .of "add_reward_to_event" LinkReward.payload Links.add fun _ => .null,
  .of "remove_reward_from_event" LinkReward.payload Links.remove fun _ => .null,
  .of "get_rewards_by_event_id" ByEvent.payload (fun p => Links.rewards p.eventId)
    Reward.codec.list.encode]

def onRequests : List Handler := [
  .of "create_reward_request" CreateRequest.payload Requests.create Request.codec.encode,
  .of "get_reward_request_by_id" ById.payload (fun p => Requests.get p.id) Request.codec.encode,
  .of "get_reward_requests" ListRequests.payload Requests.list
    (OffsetPage.codec Request.codec).encode,
  .of "get_reward_requests_by_cursor" WalkRequests.payload Requests.walk
    (CursorPage.codec Request.codec).encode,
  .of "update_reward_request_status" ReviewRequest.payload Requests.reviewByName
    Request.codec.encode]

/-- All commands, in the order in which they are entered. -/
def all : List Handler := onEvents ++ onRewards ++ onLinks ++ onRequests

end Command

namespace Router

/-- The router with all commands. -/
def standard : Router := Command.all.foldl add empty

/-- Enter all commands and note it in the log. -/
def openStandard : Program Router := do
  let r ← empty.register Command.all
  Program.note ⟨.info, target, "命令路由表初始化完成", [("command_count", .number r.size)]⟩
  return r

end Router
end RewardDesk
