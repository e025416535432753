import RewardDesk.Desk.Events
import RewardDesk.Desk.Rewards

/-!
# Work on links

Which rewards belong to which events.
-/

namespace RewardDesk.Links

/-- Where the notes of this work come from. -/
def target : String := "reward_service::service::event_reward_service"

/-- The span of work on the link of an event and a reward. -/
def span (name : String) (p : LinkReward) : Log.Span :=
  ⟨.info, target, name, [("event_id", .text p.eventId), ("reward_id", .text p.rewardId)]⟩

def add (p : LinkReward) : Desk Unit :=
  Desk.within (span "add_reward_to_event" p) do
    let _ ← Events.get p.eventId
    let _ ← Rewards.get p.rewardId
    let now ← Desk.ask .clock
    if !(← Desk.perform (.addLink ⟨p.eventId, p.rewardId, now⟩)) then
      throw (.duplicateLink p.eventId p.rewardId)
    Desk.note ⟨.info, target, "Reward linked to event", []⟩

def remove (p : LinkReward) : Desk Unit :=
  Desk.within (span "remove_reward_from_event" p) do
    if !(← Desk.perform (.removeLink p.eventId p.rewardId)) then
      throw (.linkNotFound p.eventId p.rewardId)
    Desk.note ⟨.info, target, "Reward unlinked from event", []⟩

/-- The rewards linked to an event. -/
def rewards (eventId : String) : Desk (List Reward) := do
  let _ ← Events.get eventId
  Desk.perform (.getRewards (← Desk.perform (.linkedRewards eventId)))

end RewardDesk.Links
