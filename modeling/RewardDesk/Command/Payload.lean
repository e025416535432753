import RewardDesk.Error.Basic
import RewardDesk.Model.Event
import RewardDesk.Model.Filter
import RewardDesk.Paging.Cursor

/-!
# Payloads

What the commands take. A payload is an object, or its fields as an array; null stands for the empty
object. First its shape is read, then the lengths of its texts are checked, and a text of any
field that is too short or too long is reported together with the others.
-/

namespace RewardDesk

open Json

/-! ### Lengths of texts -/

/-- The text must not be empty. -/
def notEmpty (field message : String) (text : String) : List FieldProblem :=
  if text.isEmpty then [⟨field, message⟩] else []

/-- The text must have between one and a hundred characters. -/
def fromOneToHundred (field message : String) (text : String) : List FieldProblem :=
  if 1 ≤ text.length ∧ text.length ≤ 100 then [] else [⟨field, message⟩]

/-- A kind of payload: how it is read, and what can be wrong with the lengths of its texts. -/
structure Payload (α : Type) where
  codec : Codec α
  problems : α → List FieldProblem := fun _ => []

/-- Read a payload. -/
def Payload.read (p : Payload α) (payload : Json) : Except Unacceptable α :=
  match p.codec.ofValue (if payload matches .null then .object [] else payload) with
  | .error fault => .error (.payload fault)
  | .ok a => if (p.problems a).isEmpty then .ok a else .error (.fields (p.problems a))

/-! ### Names of records -/

/-- The id of a record. -/
structure ById where
  id : String

def ById.payload : Payload ById where
  codec := .record "IdDto" (.cons (.required "id" .string) .nil) (fun (id, _) => ⟨id⟩)
    (fun p => (p.id, ()))
  problems p := notEmpty "id" "id 不能为空" p.id

/-- The id of an event. -/
structure ByEvent where
  eventId : String

def ByEvent.payload : Payload ByEvent where
  codec := .record "EventIdDto" (.cons (.required "eventId" .string) .nil) (fun (id, _) => ⟨id⟩)
    (fun p => (p.eventId, ()))
  problems p := notEmpty "event_id" "eventId 不能为空" p.eventId

/-! ### Events -/

/-- What is said of the name of an event. -/
def eventNameLength : String := "活动名称长度必须在1-100个字符之间"

/-- An event to be created. -/
structure CreateEvent where
  name : String
  description : Option String
  condition : Option Json
  startDate : Instant
  endDate : Instant
  status : Option EventStatus

def CreateEvent.payload : Payload CreateEvent where
  codec := .record "CreateEventDto"
    (.cons (.required "name" .string) <|
      .cons (.optional "description" .string) <|
      .cons (.optional "condition" .any) <|
      .cons (.required "startDate" .instant) <|
      .cons (.required "endDate" .instant) <|
      .cons (.optional "status" EventStatus.codec) .nil)
    (fun (name, description, condition, startDate, endDate, status, _) =>
      { name, description, condition, startDate, endDate, status })
    (fun p => (p.name, p.description, p.condition, p.startDate, p.endDate, p.status, ()))
  problems p := fromOneToHundred "name" eventNameLength p.name

/-- Changes to an event. What is absent stays as it is. -/
structure UpdateEvent where
  id : String
  name : Option String
  description : Option String
  condition : Option Json
  startDate : Option Instant
  endDate : Option Instant
  status : Option EventStatus

def UpdateEvent.payload : Payload UpdateEvent where
  codec := .record "UpdateEventDto"
    (.cons (.required "id" .string) <|
      .cons (.optional "name" .string) <|
      .cons (.optional "description" .string) <|
      .cons (.optional "condition" .any) <|
      .cons (.optional "startDate" .instant) <|
      .cons (.optional "endDate" .instant) <|
      .cons (.optional "status" EventStatus.codec) .nil)
    (fun (id, name, description, condition, startDate, endDate, status, _) =>
      { id, name, description, condition, startDate, endDate, status })
    (fun p => (p.id, p.name, p.description, p.condition, p.startDate, p.endDate, p.status, ()))
  problems p := notEmpty "id" "id 不能为空" p.id ++
    p.name.toList.flatMap (fromOneToHundred "name" eventNameLength)

/-- A page of events. -/
structure ListEvents where
  status : Option EventStatus
  page : UInt32
  limit : UInt32

def ListEvents.params (p : ListEvents) : PageParams := ⟨p.page, .clamp p.limit⟩

def ListEvents.payload : Payload ListEvents where
  codec := .record "EventQueryDto"
    (.cons (.optional "status" EventStatus.codec) <|
      .cons (.withDefault "page" .uint32 0) <|
      .cons (.withDefault "limit" .uint32 PageLimit.standard.toUInt32) .nil)
    (fun (status, page, limit, _) => { status, page, limit })
    (fun p => (p.status, p.page, p.limit, ()))

/-! ### Rewards -/

/-- A reward to be created. Its data are any JSON until they are admitted. -/
structure CreateReward where
  name : String
  description : Option String
  type : RewardType
  rewardData : Json

def CreateReward.payload : Payload CreateReward where
  codec := .record "CreateRewardDto"
    (.cons (.required "name" .string) <|
      .cons (.optional "description" .string) <|
      .cons (.required "type" RewardType.codec) <|
      .cons (.withDefault "rewardData" .any .null) .nil)
    (fun (name, description, type, rewardData, _) => { name, description, type, rewardData })
    (fun p => (p.name, p.description, p.type, p.rewardData, ()))
  problems p := fromOneToHundred "name" "奖励名称长度必须在1-100个字符之间" p.name

/-- A stretch of the catalogue, newest rewards first. -/
structure ListRewards where
  type : Option RewardType
  name : Option String
  limit : UInt32
  offset : UInt64

def ListRewards.window (p : ListRewards) : Window := .ofRow (.clamp p.limit) p.offset

def ListRewards.filter (p : ListRewards) : RewardFilter := ⟨p.type, p.name⟩

def ListRewards.payload : Payload ListRewards where
  codec := .record "RewardQueryDto"
    (.cons (.optional "type" RewardType.codec) <|
      .cons (.optional "name" .string) <|
      .cons (.withDefault "limit" .uint32 PageLimit.standard.toUInt32) <|
      .cons (.withDefault "offset" .uint64 0) .nil)
    (fun (type, name, limit, offset, _) => { type, name, limit, offset })
    (fun p => (p.type, p.name, p.limit, p.offset, ()))

/-- A page of a walk through the catalogue. -/
structure WalkRewards where
  type : Option RewardType
  name : Option String
  cursor : Option String
  limit : Option UInt32

def WalkRewards.params (p : WalkRewards) : CursorParams := .of p.cursor p.limit

def WalkRewards.filter (p : WalkRewards) : RewardFilter := ⟨p.type, p.name⟩

def WalkRewards.payload : Payload WalkRewards where
  codec := .record "RewardCursorQueryDto"
    (.cons (.optional "type" RewardType.codec) <|
      .cons (.optional "name" .string) <|
      .cons (.optional "cursor" .string) <|
      .cons (.optional "limit" .uint32) .nil)
    (fun (type, name, cursor, limit, _) => { type, name, cursor, limit })
    (fun p => (p.type, p.name, p.cursor, p.limit, ()))

/-- A stretch of the catalogue and the number of rewards in the whole listing. -/
structure RewardList where
  rewards : List Reward
  total : UInt64

def RewardList.codec : Codec RewardList :=
  .record "RewardListDto"
    (.cons (.required "rewards" Reward.codec.list) <| .cons (.required "total" .uint64) .nil)
    (fun (rewards, total, _) => { rewards, total })
    (fun l => (l.rewards, l.total, ()))

/-! ### Links -/

/-- An event and a reward. -/
structure LinkReward where
  eventId : String
  rewardId : String

def LinkReward.payload : Payload LinkReward where
  codec := .record "EventRewardDto"
    (.cons (.required "eventId" .string) <| .cons (.required "rewardId" .string) .nil)
    (fun (eventId, rewardId, _) => { eventId, rewardId })
    (fun p => (p.eventId, p.rewardId, ()))
  problems p := notEmpty "event_id" "eventId 不能为空" p.eventId ++
    notEmpty "reward_id" "rewardId 不能为空" p.rewardId

/-! ### Requests -/

/-- A user's application to an event. -/
structure CreateRequest where
  userId : String
  eventId : String

def CreateRequest.payload : Payload CreateRequest where
  codec := .record "CreateRewardRequestDto"
    (.cons (.required "userId" .string) <| .cons (.required "eventId" .string) .nil)
    (fun (userId, eventId, _) => { userId, eventId })
    (fun p => (p.userId, p.eventId, ()))
  problems p := fromOneToHundred "user_id" "userId 长度必须在1-100个字符之间" p.userId ++
    notEmpty "event_id" "eventId 不能为空" p.eventId

/-- A page of requests. -/
structure ListRequests where
  userId : Option String
  eventId : Option String
  status : Option RequestStatus
  page : UInt32
  limit : UInt32

def ListRequests.params (p : ListRequests) : PageParams := ⟨p.page, .clamp p.limit⟩

def ListRequests.filter (p : ListRequests) : RequestFilter := ⟨p.userId, p.eventId, p.status⟩

def ListRequests.payload : Payload ListRequests where
  codec := .record "RewardRequestQueryDto"
    (.cons (.optional "userId" .string) <|
      .cons (.optional "eventId" .string) <|
      .cons (.optional "status" RequestStatus.codec) <|
      .cons (.withDefault "page" .uint32 0) <|
      .cons (.withDefault "limit" .uint32 PageLimit.standard.toUInt32) .nil)
    (fun (userId, eventId, status, page, limit, _) => { userId, eventId, status, page, limit })
    (fun p => (p.userId, p.eventId, p.status, p.page, p.limit, ()))

/-- A page of a walk through the requests. -/
structure WalkRequests where
  userId : Option String
  eventId : Option String
  status : Option RequestStatus
  cursor : Option String
  limit : Option UInt32

def WalkRequests.params (p : WalkRequests) : CursorParams := .of p.cursor p.limit

def WalkRequests.filter (p : WalkRequests) : RequestFilter := ⟨p.userId, p.eventId, p.status⟩

def WalkRequests.payload : Payload WalkRequests where
  codec := .record "RewardRequestCursorQueryDto"
    (.cons (.optional "userId" .string) <|
      .cons (.optional "eventId" .string) <|
      .cons (.optional "status" RequestStatus.codec) <|
      .cons (.optional "cursor" .string) <|
      .cons (.optional "limit" .uint32) .nil)
    (fun (userId, eventId, status, cursor, limit, _) => { userId, eventId, status, cursor, limit })
    (fun p => (p.userId, p.eventId, p.status, p.cursor, p.limit, ()))

/-- The verdict on a request. The status is any text: one that names no status is refused as a
transition, not as a payload. -/
structure ReviewRequest where
  requestId : String
  status : String

def ReviewRequest.payload : Payload ReviewRequest where
  codec := .record "UpdateRewardRequestStatusDto"
    (.cons (.required "rewardRequestId" .string) <|
      .cons { Field.required "status" .string with otherName := some "newStatus" } .nil)
    (fun (requestId, status, _) => { requestId, status })
    (fun p => (p.requestId, p.status, ()))
  problems p := notEmpty "reward_request_id" "rewardRequestId 不能为空" p.requestId ++
    notEmpty "status" "status 不能为空" p.status

end RewardDesk
