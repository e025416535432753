import RewardDesk.Command.Payload
import RewardDesk.Desk.Program

/-!
# Work on rewards

Rewards are created once and never change. Their data are admitted before anything is stored.
-/

namespace RewardDesk.Rewards

/-- Where the notes of this work come from. -/
def target : String := "reward_service::service::reward_catalog"

/-- Admit the data of a reward. -/
def accept (p : CreateReward) : Except DeskError RewardData :=
  match p.type.parse p.rewardData with
  | .ok data => .ok data
  | .error problem => .error (.invalidRewardData p.type problem)

def create (p : CreateReward) : Desk Reward :=
  Desk.within ⟨.info, target, "create_reward",
      [("reward_type", .words p.type.name), ("name", .words p.name)]⟩ do
    let data ← accept p
    let now ← Desk.ask .clock
    let id ← Desk.ask .freshId
    let reward : Reward :=
      { id, name := p.name, description := p.description, data, createdAt := now, updatedAt := now }
    Desk.perform (.createReward reward)
    Desk.ask (.measure (.rewardCreated reward.type.name))
    Desk.note ⟨.info, target, "Reward created", [("reward_id", .words reward.id)]⟩
    return reward

def get (id : String) : Desk Reward := do
  Desk.orElse (.rewardNotFound id) (← Desk.perform (.getReward id))

/-- A stretch of the catalogue, newest first, and the number of all that could be listed. -/
def list (p : ListRewards) : Desk RewardList := do
  let rewards ← Desk.perform (.listRewards p.filter p.window)
  let total ← Desk.perform (.countRewards p.filter)
  return { rewards, total }

/-- A page of a walk through the catalogue. -/
def walk (p : WalkRewards) : Desk (CursorPage Reward) := do
  let fetched ← Desk.perform (.walkRewards p.filter p.params.query)
  return .ofFetched Reward.id fetched p.params.limit

end RewardDesk.Rewards
