import RewardDesk.Model.RewardData

/-!
# Rewards

A `Reward` in JSON is one object: its own members and those of its tagged data side by side. A
`RewardRow` is its stored form, with kind and bare data apart; `RewardRow.toReward` admits the data
again on the way back.
-/

namespace RewardDesk

/-- A reward of the catalogue. -/
structure Reward where
  id : String
  name : String
  description : Option String
  data : RewardData
  createdAt : Instant
  updatedAt : Instant
  deriving DecidableEq, Repr

namespace Reward

/-- The kind of the reward. -/
def type (r : Reward) : RewardType := r.data.type

section
open Json

/-- The fields of a reward apart from its data. -/
def ownFields : Fields [String, String, Option String, Instant, Instant] :=
  .cons (.required "id" .string) <|
  .cons (.required "name" .string) <|
  .cons { Field.optional "description" .string with omits := Option.isNone } <|
  .cons (.required "createdAt" .instant) <|
  .cons (.required "updatedAt" .instant) .nil

/-- Read a reward from the members of an object. What is not a member of its own belongs to the
data. -/
def decodeMembers (o : Origin) (members : List (Key × Document)) (ending : Except Fault Place) :
    Except Fault Reward := do
  let ((id, name, description, createdAt, updatedAt, _), others, stop) ←
    ownFields.readObject .collected o members ending
  match RewardData.decodeMembers .buffer (Document.ofMemberList others) (.ok .nowhere) with
  | .ok data => return { id, name, description, data, createdAt, updatedAt }
  | .error f => throw (f.orAt stop)

def codec : Codec Reward where
  decode o d := match d with
    | .record _ members ending => decodeMembers o members ending
    | d => .error (d.misfit "struct Reward")
  encode r := Json.ofMembers
    (ownFields.members (r.id, r.name, r.description, r.createdAt, r.updatedAt, ()) ++
      r.data.members)

end
end Reward

/-- A reward as it is stored in a table. -/
structure RewardRow where
  id : String
  name : String
  description : Option String
  type : RewardType
  data : Json
  createdAt : Instant
  updatedAt : Instant

/-- Why a stored reward is no reward. -/
structure RewardRow.Corrupt where
  id : String
  problem : RewardData.Problem
  deriving DecidableEq, Repr

def RewardRow.Corrupt.message (c : RewardRow.Corrupt) : String :=
  "reward " ++ c.id ++ " 数据损坏: " ++ c.problem.message

/-- The reward of a row. -/
def RewardRow.toReward (row : RewardRow) : Except RewardRow.Corrupt Reward :=
  match row.type.parse row.data with
  | .ok data => .ok
    { id := row.id, name := row.name, description := row.description, data,
      createdAt := row.createdAt, updatedAt := row.updatedAt }
  | .error problem => .error ⟨row.id, problem⟩

/-- The row of a reward. -/
def Reward.toRow (r : Reward) : RewardRow :=
  { id := r.id, name := r.name, description := r.description, type := r.type, data := r.data.bare,
    createdAt := r.createdAt, updatedAt := r.updatedAt }

end RewardDesk
